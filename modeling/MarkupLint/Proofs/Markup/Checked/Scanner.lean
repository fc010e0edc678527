import MarkupLint.Markup.Forest
import MarkupLint.Proofs.Markup.Checked.Text

/-!
# Reading markup by byte offsets

A scanner moves one offset through the bytes of a text. It takes parts out between offsets, asks
for positions in the order in which tags and attributes are finished, and keeps the open elements
as it goes. Wherever it relies on something that need not hold of all offsets, it looks first and
gives up with a fault: before a part is taken out, before the table of lines is entered, before a
column is reduced, and before a loop goes round again.
-/

namespace MarkupLint.Markup

/-- A computation that looks positions up and may give up. -/
abbrev Checked := StateT Cursor (Except Fault)

namespace Checked

/-- A loop that goes on at `next` has moved on, inside the text. -/
def Advances (text : String) (pos next : Nat) : Prop :=
  pos < next ∧ next ≤ text.utf8ByteSize

instance (text : String) (pos next : Nat) : Decidable (Advances text pos next) :=
  inferInstanceAs (Decidable (_ ∧ _))

theorem Advances.decreases {text : String} {pos next : Nat} (advances : Advances text pos next) :
    text.utf8ByteSize - next < text.utf8ByteSize - pos := by
  obtain ⟨forwards, inside⟩ := advances
  omega

/-! ## Tokens and open elements -/

/-- The position at an offset, remembered for the next time. -/
def positionAt (offset : Nat) : Checked Position := do
  let cursor ← get
  let position ← locate cursor offset
  set { cursor with last := position }
  return position

/-- The token between two offsets. -/
def token (text : String) (start stop : Nat) : Checked Token := do
  let chars ← between text start stop
  let first ← positionAt start
  let last ← positionAt stop
  return Token.new chars ⟨first, last⟩

/-- Closes the innermost open element at an offset. -/
def closeInner (builder : Builder) (closing : Option Token) (stop : Nat) : Checked Builder :=
  match builder.openElements with
  | [] => return builder
  | _ :: _ => do
      let position ← positionAt stop
      return builder.closeInner closing position

/-- Closes the `count` innermost open elements at an offset, without closing tags. -/
def cutOff (builder : Builder) (stop : Nat) : Nat → Checked Builder
  | 0 => return builder
  | count + 1 => do
      let next ← closeInner builder none stop
      cutOff next stop count

/-! ## Comments, declarations and text -/

/-- Reads a comment. -/
def readComment (text : String) (pos : Nat) (builder : Builder) : Checked (Nat × Builder) := do
  let stop ← findThrough text ['-', '-', '>'] (pos + 4)
  let whole ← token text pos stop
  return (stop, builder.push (.comment whole))

/-- Reads a declaration. -/
def readDoctype (text : String) (pos : Nat) (builder : Builder) : Checked (Nat × Builder) := do
  let stop ← findThrough text ['>'] pos
  let whole ← token text pos stop
  return (stop, builder.push (.doctype whole))

/-- Whether a bracket in front of `c` may start markup. -/
def startsMarkup (c : Char) : Bool :=
  c.isAlpha || c == '/' || c == '!'

/-- The end of the text at an offset: the first bracket that may start markup. -/
def textEnd (text : String) (pos : Nat) : Except Fault Nat := do
  match ← find text ['<'] pos with
  | none => return text.utf8ByteSize
  | some found =>
      if (peek text (found + 1)).any startsMarkup then return found
      else if _ : Advances text pos (found + 1) then textEnd text (found + 1)
      else throw .stuck
termination_by text.utf8ByteSize - pos
decreasing_by exact Advances.decreases ‹_›

/-- Reads a run of text, of at least one character. -/
def readText (text : String) (pos : Nat) (builder : Builder) : Checked (Nat × Builder) := do
  let rest ← between text pos text.utf8ByteSize
  let stop ← textEnd text (pos + (rest.toList.head?.map Char.utf8Size).getD 1)
  let whole ← token text pos stop
  return (stop, builder.push (.text whole))

/-! ## Tags -/

/-- Reads a closing tag. -/
def readClosing (text : String) (pos : Nat) (builder : Builder) : Checked (Nat × Builder) := do
  let nameStop := runEnd text isTagNameChar (pos + 2)
  let stop ← findThrough text ['>'] nameStop
  let name ← between text (pos + 2) nameStop
  match builder.depthOf? name with
  | some depth =>
      let inner ← cutOff builder pos depth
      let closing ← token text (pos + 2) nameStop
      let outer ← closeInner inner (some closing) stop
      return (stop, outer)
  | none =>
      let whole ← token text pos stop
      return (stop, builder.push (.text whole))

/-- Reads a value up to a quote, and passes over the quote. -/
def readQuoted (text : String) (quote : Char) (pos : Nat) : Checked (Token × Nat) := do
  let stop := runEnd text (· != quote) pos
  let value ← token text pos stop
  return (value, if stop < text.utf8ByteSize then stop + 1 else stop)

/-- Reads a value without quotes. -/
def readBare (text : String) (pos : Nat) : Checked (Token × Nat) := do
  let stop := runEnd text isBareValueChar pos
  let value ← token text pos stop
  return (value, stop)

/-- Reads a value. -/
def readValue (text : String) (pos : Nat) : Checked (Token × Nat) :=
  if peek text pos = some '"' then readQuoted text '"' (pos + 1)
  else if peek text pos = some '\x27' then readQuoted text '\x27' (pos + 1)
  else readBare text pos

/-- Reads an attribute. Without an equals sign, it goes back to the end of the name. -/
def readAttribute (text : String) (pos : Nat) : Checked (Attribute × Nat) := do
  let nameStop := runEnd text isAttributeNameChar pos
  let name ← token text pos nameStop
  let sign := runEnd text Text.isBlank nameStop
  if peek text sign = some '=' then
    let (value, next) ← readValue text (runEnd text Text.isBlank (sign + 1))
    return (Attribute.new name (some value), next)
  else return (Attribute.new name none, nameStop)

/-- Reads attributes up to the end of the tag; `found` holds those read so far, last one first. -/
def readAttributes (text : String) (pos : Nat) (found : List Attribute) :
    Checked (List Attribute × Bool × Nat) := do
  let start := runEnd text Text.isBlank pos
  match peek text start with
  | none => return (found.reverse, false, start)
  | some c =>
      if c = '>' then return (found.reverse, false, start + 1)
      else if c = '/' then
        if peek text (start + 1) = some '>' then return (found.reverse, true, start + 2)
        else if _ : Advances text pos (start + 1) then readAttributes text (start + 1) found
        else throw .stuck
      else
        let (attr, next) ← readAttribute text start
        if _ : Advances text pos next then readAttributes text next (attr :: found)
        else throw .stuck
termination_by text.utf8ByteSize - pos
decreasing_by
  · exact Advances.decreases ‹_›
  · exact Advances.decreases ‹_›

/-! ## Raw text -/

/-- Where the raw text of an element ends, in its lower-case copy: in front of
a `needle` behind which no name of a tag goes on. -/
def closerFrom (lowered : String) (needle : List Char) (pos : Nat) :
    Except Fault (Option Nat) := do
  match ← find lowered needle pos with
  | none => return none
  | some found =>
      if (peek lowered (found + byteSize needle)).all fun c =>
        !isTagNameChar c then return some found
      else if _ : Advances lowered pos (found + byteSize needle) then
        closerFrom lowered needle (found + byteSize needle)
      else throw .stuck
termination_by lowered.utf8ByteSize - pos
decreasing_by exact Advances.decreases ‹_›

/-- Adds the text between two offsets, unless it is empty. -/
def pushText (text : String) (start stop : Nat) (builder : Builder) : Checked Builder :=
  if start < stop then do
    let whole ← token text start stop
    return builder.push (.text whole)
  else return builder

/-- Reads the content of a raw text element and its closing tag, or all that is left. -/
def readRawText (text name : String) (pos : Nat) (builder : Builder) :
    Checked (Nat × Builder) := do
  let rest ← between text pos text.utf8ByteSize
  let lowered := String.ofList (rest.toList.map Char.toLower)
  match ← closerFrom lowered ('<' :: '/' :: name.toList) 0 with
  | some found =>
      let filled ← pushText text pos (pos + found) builder
      readClosing text (pos + found) filled
  | none =>
      let filled ← pushText text pos text.utf8ByteSize builder
      let closed ← closeInner filled none text.utf8ByteSize
      return (text.utf8ByteSize, closed)

/-- Reads an opening tag, and the element if its content is raw text. -/
def readOpening (text : String) (pos : Nat) (builder : Builder) : Checked (Nat × Builder) := do
  let nameStop := runEnd text isTagNameChar (pos + 1)
  let name ← token text (pos + 1) nameStop
  let (attributes, selfClosing, stop) ← readAttributes text nameStop []
  let first ← positionAt pos
  let last ← positionAt stop
  let tag : Tag := ⟨Text.lowercase name.chars, attributes, name, none, ⟨first, last⟩⟩
  let opened : Builder := { builder with openElements := ⟨tag, []⟩ :: builder.openElements }
  if selfClosing || isVoidElement tag.name then return (stop, builder.push (.element tag []))
  else if isRawTextElement tag.name then readRawText text tag.name stop opened
  else return (stop, opened)

/-! ## Whole texts -/

/-- Reads what starts at an offset. -/
def step (text : String) (pos : Nat) (builder : Builder) : Checked (Nat × Builder) := do
  let rest ← between text pos text.utf8ByteSize
  if ['<', '!', '-', '-'].isPrefixOf rest.toList then readComment text pos builder
  else if ['<', '!'].isPrefixOf rest.toList then readDoctype text pos builder
  else if ['<', '/'].isPrefixOf rest.toList && (peek text (pos + 2)).any Char.isAlpha then
    readClosing text pos builder
  else if ['<'].isPrefixOf rest.toList && (peek text (pos + 1)).any Char.isAlpha then
    readOpening text pos builder
  else readText text pos builder

/-- Reads what is left behind an offset, and closes what is open at the end. -/
def build (text : String) (pos : Nat) (builder : Builder) : Checked (List Node) :=
  if pos < text.utf8ByteSize then do
    let (next, grown) ← step text pos builder
    if _ : Advances text pos next then build text next grown
    else throw .stuck
  else do
    let closed ← cutOff builder text.utf8ByteSize builder.openElements.length
    return closed.roots.reverse
termination_by text.utf8ByteSize - pos
decreasing_by exact Advances.decreases ‹_›

/-- Reads a text, or gives up. -/
def parse (text : String) : Except Fault (List Node) :=
  (build text 0 .empty).run' (Cursor.ofText text)

end Checked

end MarkupLint.Markup
