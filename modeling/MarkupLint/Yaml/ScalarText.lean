import MarkupLint.Json.Lexeme
import MarkupLint.Yaml.Input

/-!
# The text of YAML scalars

Scalars are written plainly, between quotes, or as a block of indented lines. In all but the
literal block, the white space between two words is folded: on one line it stays, a single line
break becomes a space, and of several line breaks the first is dropped.
-/

namespace MarkupLint.Yaml

/-- The white space behind a word: what was read on the same line and, once
the line has ended, its first line break and those after it. An escaped line
break ends the line without being kept. -/
structure Gap where
  spaces : List Char
  ended : Bool
  firstBreak : Option Char
  moreBreaks : List Char
deriving Repr, Inhabited

namespace Gap

/-- No white space. -/
def none : Gap :=
  ⟨[], false, .none, []⟩

/-- Whether nothing was read. -/
def isNone (gap : Gap) : Bool :=
  gap.spaces.isEmpty && !gap.ended

/-- One more blank; blanks at the beginning of a line are dropped. -/
def addBlank (gap : Gap) (c : Char) : Gap :=
  if gap.ended then gap else { gap with spaces := gap.spaces ++ [c] }

/-- One more line break. -/
def addBreak (gap : Gap) (c : Char) : Gap :=
  if gap.ended then { gap with moreBreaks := gap.moreBreaks ++ [c] }
  else ⟨[], true, some c, []⟩

/-- What the white space counts for. -/
def fold (gap : Gap) : List Char :=
  if gap.ended then
    match gap.firstBreak with
    | some '\n' => if gap.moreBreaks.isEmpty then [' '] else gap.moreBreaks
    | some c => c :: gap.moreBreaks
    | .none => gap.moreBreaks
  else gap.spaces

end Gap

/-- Whether a character divides the parts of a flow collection. -/
def isFlowSign (c : Char) : Bool :=
  c == ',' || c == '[' || c == ']' || c == '\x7b' || c == '\x7d'

/-- A scalar that was read: its text, whether a line had ended behind it, and what is left. -/
structure ScalarRead where
  text : List Char
  lineEnded : Bool
  rest : Input
deriving Repr, Inhabited

/-- Whether a plain scalar is broken off by a new word at `input`, behind some white space. -/
def breaksPlain (inFlow : Bool) (indent : Int) (input : Input) : Bool :=
  (!inFlow && (input.place.column : Int) < indent) || input.atDocumentMark ||
    input.rest.head? == some '#'

/-- Whether a colon in front of `rest` is out of place in a plain scalar of a flow collection. -/
def isMisplacedColon (inFlow : Bool) (c : Char) (rest : List Char) : Bool :=
  inFlow && c == ':' &&
    match rest with
    | next :: _ => isFlowSign next || next == '?'
    | [] => false

/-- Whether a plain scalar ends in front of the character `c`, which `rest` follows. -/
def endsPlain (inFlow : Bool) (c : Char) (rest : List Char) : Bool :=
  (c == ':' && endsWord rest) || (inFlow && isFlowSign c)

/-- Reads on in a plain scalar; `text` holds what was read, last character first. -/
def readPlainFrom (inFlow : Bool) (indent : Int) (text : List Char) (gap : Gap) (place : Place) :
    List Char → Option ScalarRead
  | [] => some ⟨text.reverse, gap.ended, ⟨place, []⟩⟩
  | c :: rest =>
      let done := some ⟨text.reverse, gap.ended, ⟨place, c :: rest⟩⟩
      let next := place.advance c
      if isBlank c then
        if gap.ended && c == '\t' && (place.column : Int) < indent then none
        else readPlainFrom inFlow indent text (gap.addBlank c) next rest
      else if isBreak c then readPlainFrom inFlow indent text (gap.addBreak c) next rest
      else if !gap.isNone && breaksPlain inFlow indent ⟨place, c :: rest⟩ then done
      else if isMisplacedColon inFlow c rest then none
      else if endsPlain inFlow c rest then done
      else readPlainFrom inFlow indent (c :: gap.fold.reverse ++ text) .none next rest

/-- Reads a plain scalar that has to be indented by `indent`. -/
def readPlain (inFlow : Bool) (indent : Int) (input : Input) : Option ScalarRead :=
  readPlainFrom inFlow indent [] .none input.place input.rest

/-- The character that a one-letter escape stands for. -/
def escapeChar? : Char → Option Char
  | '0' => some '\x00'
  | 'a' => some '\x07'
  | 'b' => some '\x08'
  | 't' => some '\t'
  | '\t' => some '\t'
  | 'n' => some '\n'
  | 'v' => some '\x0b'
  | 'f' => some '\x0c'
  | 'r' => some '\r'
  | 'e' => some '\x1b'
  | ' ' => some ' '
  | '"' => some '"'
  | '/' => some '/'
  | '\\' => some '\\'
  | 'N' => some '\u0085'
  | '_' => some '\u00a0'
  | 'L' => some '\u2028'
  | 'P' => some '\u2029'
  | _ => none

/-- The number of hexadecimal digits behind an escape letter. -/
def codeLength? : Char → Option Nat
  | 'x' => some 2
  | 'u' => some 4
  | 'U' => some 8
  | _ => none

/-- The value of hexadecimal digits. -/
def hexNumber? (digits : List Char) : Option Nat :=
  digits.foldlM (fun value c => do return value * 16 + (← Json.hexValue? c)) 0

/-- Reads an escape behind its backslash: the character, and how many characters were read. -/
def readEscape (chars : List Char) : Option (Char × Nat) := do
  let letter ← chars.head?
  match codeLength? letter with
  | none => return (← escapeChar? letter, 1)
  | some count =>
      let digits := (chars.drop 1).take count
      let code ← hexNumber? digits
      if digits.length = count && code.isValidChar then return (Char.ofNat code, count + 1)
      else none

/-- Reads on in a scalar between double quotes. Each round reads a character;
`fuel` bounds their number. -/
def readDoubleFrom (text : List Char) (gap : Gap) (input : Input) : Nat → Option ScalarRead
  | 0 => none
  | fuel + 1 =>
      match input.rest with
      | [] => none
      | c :: rest =>
          let folded := gap.fold.reverse ++ text
          if isBlank c then readDoubleFrom text (gap.addBlank c) (input.skip 1) fuel
          else if isBreak c then readDoubleFrom text (gap.addBreak c) (input.skip 1) fuel
          else if input.atDocumentMark then none
          else if c = '"' then some ⟨folded.reverse, false, input.skip 1⟩
          else if c = '\\' then
            if (rest.head?.map isBreak).getD false then
              readDoubleFrom folded ⟨[], true, none, []⟩ (input.skip 2) fuel
            else
              match readEscape rest with
              | some (escaped, count) =>
                  readDoubleFrom (escaped :: folded) .none (input.skip (count + 1)) fuel
              | none => none
          else readDoubleFrom (c :: folded) .none (input.skip 1) fuel

/-- Reads on in a scalar between single quotes, in which two quotes stand for one. -/
def readSingleFrom (text : List Char) (gap : Gap) (input : Input) : Nat → Option ScalarRead
  | 0 => none
  | fuel + 1 =>
      match input.rest with
      | [] => none
      | c :: rest =>
          let folded := gap.fold.reverse ++ text
          if isBlank c then readSingleFrom text (gap.addBlank c) (input.skip 1) fuel
          else if isBreak c then readSingleFrom text (gap.addBreak c) (input.skip 1) fuel
          else if input.atDocumentMark then none
          else if c = '\x27' then
            if rest.head? = some '\x27' then readSingleFrom (c :: folded) .none (input.skip 2) fuel
            else some ⟨folded.reverse, false, input.skip 1⟩
          else readSingleFrom (c :: folded) .none (input.skip 1) fuel

/-- Reads a scalar that starts with a quote. -/
def readQuoted (input : Input) : Option ScalarRead :=
  let inside := input.skip 1
  if input.rest.head? = some '"' then readDoubleFrom [] .none inside inside.rest.length
  else readSingleFrom [] .none inside inside.rest.length

/-- What to do with the line breaks at the end of a block. -/
inductive Chomping where
  | clip
  | strip
  | keep
deriving DecidableEq, Repr, Inhabited

/-- The header of a block: chomping, and the indentation if it is given. -/
structure BlockHeader where
  chomping : Chomping
  indent : Option Nat
deriving Repr, Inhabited

/-- Reads a chomping sign. -/
def readChomping : List Char → Chomping × List Char
  | '+' :: rest => (.keep, rest)
  | '-' :: rest => (.strip, rest)
  | chars => (.clip, chars)

/-- Reads an indentation, a digit other than zero. -/
def readIndent : List Char → Option (Option Nat × List Char)
  | [] => some (none, [])
  | c :: rest =>
      if c = '0' then none
      else if c.isDigit then some (some (c.toNat - '0'.toNat), rest)
      else some (none, c :: rest)

/-- Reads the signs of a header, in either order. -/
def readHeaderSigns (chars : List Char) : Option (BlockHeader × List Char) := do
  let (first, afterFirst) := readChomping chars
  let (indent, afterIndent) ← readIndent afterFirst
  if first = .clip && indent.isSome then
    let (second, rest) := readChomping afterIndent
    return (⟨second, indent⟩, rest)
  else return (⟨first, indent⟩, afterIndent)

/-- Passes over the rest of a header line, which may hold a comment. -/
def skipHeaderLine (input : Input) : Option Input :=
  let blankless := (input.splitWhile isBlank).2
  let ended :=
    if blankless.rest.head? = some '#' then (blankless.splitWhile fun c => !isBreak c).2
    else blankless
  match ended.rest with
  | [] => some ended
  | c :: _ => if isBreak c then some (ended.skip 1) else none

/-- The empty lines and the indentation in front of a line of a block. -/
structure BlockGap where
  breaks : List Char
  widest : Nat
  rest : Input
deriving Repr, Inhabited

/-- Reads empty lines and indentation; an unknown indentation takes all
spaces. A tab in place of a space is refused. -/
def readBlockGap (indent : Option Nat) (breaks : List Char) (widest : Nat) (place : Place) :
    List Char → Option BlockGap
  | [] => some ⟨breaks, max widest place.column, ⟨place, []⟩⟩
  | c :: rest =>
      let short := indent.all (place.column < ·)
      if short && c == ' ' then readBlockGap indent breaks widest (place.advance c) rest
      else if short && c == '\t' then none
      else if isBreak c then
        readBlockGap indent (breaks ++ [c]) (max widest place.column) (place.advance c) rest
      else some ⟨breaks, max widest place.column, ⟨place, c :: rest⟩⟩

/-- The text of a block, with the line breaks that chomping leaves. -/
def chompBlock (chomping : Chomping) (text lastBreak : List Char) (gap : BlockGap) : ScalarRead :=
  match chomping with
  | .strip => ⟨text, true, gap.rest⟩
  | .clip => ⟨text ++ lastBreak, true, gap.rest⟩
  | .keep => ⟨text ++ lastBreak ++ gap.breaks, true, gap.rest⟩

/-- Reads the lines of a block that are indented by `indent`; `text` holds what was read, in
order, without its last line break. Each round reads a line; `fuel` bounds their number. -/
def readBlockLines (folded : Bool) (chomping : Chomping) (indent : Nat)
    (text lastBreak : List Char) (lastBlank : Bool) (gap : BlockGap) : Nat → Option ScalarRead
  | 0 => none
  | fuel + 1 =>
      match gap.rest.rest with
      | c :: _ =>
          if gap.rest.place.column = indent then
            let blank := isBlank c
            let joined :=
              if folded && lastBreak == ['\n'] && !lastBlank && !blank then
                if gap.breaks.isEmpty then [' '] else []
              else lastBreak
            let (line, afterLine) := gap.rest.splitWhile fun c => !isBreak c
            let ending := afterLine.rest.take 1
            let after := afterLine.skip 1
            match readBlockGap (some indent) [] 0 after.place after.rest with
            | none => none
            | some next =>
                readBlockLines folded chomping indent (text ++ joined ++ gap.breaks ++ line) ending
                  blank next fuel
          else some (chompBlock chomping text lastBreak gap)
      | [] => some (chompBlock chomping text lastBreak gap)

/-- Reads a block scalar inside a collection indented by `outer`. -/
def readBlock (outer : Int) (input : Input) : Option ScalarRead := do
  let folded := input.rest.head? == some '>'
  let inside := input.skip 1
  let (header, unread) ← readHeaderSigns inside.rest
  let content ← skipHeaderLine (inside.skip (inside.rest.length - unread.length))
  let given := header.indent.map fun more => (max outer 0).toNat + more
  let gap ← readBlockGap given [] 0 content.place content.rest
  let indent := given.getD (max gap.widest (max (outer + 1) 1).toNat)
  readBlockLines folded header.chomping indent [] [] false gap (content.rest.length + 1)

end MarkupLint.Yaml
