/-!
# YAML text and places in it

A reader of YAML has to know lines and columns, because nesting is shown by
indentation. Line ends of every kind are first made one character, so that a
place advances by one step for each character.
-/

namespace MarkupLint.Yaml

/-- A place in a text: the number of characters before it, its line and its
column, all from zero. -/
structure Place where
  index : Nat
  line : Nat
  column : Nat
deriving DecidableEq, Repr, Inhabited

/-- Whether a character ends a line. -/
def isBreak (c : Char) : Bool :=
  c == '\n' || c == '\u2028' || c == '\u2029'

/-- Whether a character divides words on a line. -/
def isBlank (c : Char) : Bool :=
  c == ' ' || c == '\t'

/-- Whether a word ends in front of `chars`. -/
def endsWord : List Char → Bool
  | [] => true
  | c :: _ => isBlank c || isBreak c

/-- Whether a character may stand in a text at all. -/
def isAllowed (c : Char) : Bool :=
  c == '\t' || c == '\n' || c == '\r' || (0x20 ≤ c.toNat && c.toNat ≤ 0x7E) || c.toNat == 0x85 ||
    (0xA0 ≤ c.toNat && c.toNat ≤ 0xFFFD) || 0x10000 ≤ c.toNat

/-- Makes the line ends of a text line feeds; the two Unicode separators stay as they are. -/
def normalizeBreaks : List Char → List Char
  | [] => []
  | '\r' :: '\n' :: rest => '\n' :: normalizeBreaks rest
  | c :: rest => (if c = '\r' ∨ c = '\u0085' then '\n' else c) :: normalizeBreaks rest

namespace Place

/-- The beginning of a text. -/
def start : Place :=
  ⟨0, 0, 0⟩

/-- The place behind a character. -/
def advance (place : Place) (c : Char) : Place :=
  if isBreak c then ⟨place.index + 1, place.line + 1, 0⟩
  else ⟨place.index + 1, place.line, place.column + 1⟩

end Place

/-- What is left of a text, and the place at which it starts. -/
structure Input where
  place : Place
  rest : List Char
deriving Repr, Inhabited

namespace Input

/-- A whole text. -/
def ofChars (chars : List Char) : Input :=
  ⟨.start, normalizeBreaks chars⟩

/-- Passes over `count` characters. -/
def skip (count : Nat) (input : Input) : Input :=
  ⟨(input.rest.take count).foldl Place.advance input.place, input.rest.drop count⟩

/-- Splits off the characters at the front that pass the test. -/
def splitWhile (keep : Char → Bool) (input : Input) : List Char × Input :=
  let read := input.rest.takeWhile keep
  (read, ⟨read.foldl Place.advance input.place, input.rest.dropWhile keep⟩)

/-- Whether a mark that begins or ends a document stands here: three equal
signs at the start of a line. -/
def atMark (sign : Char) (input : Input) : Bool :=
  input.place.column == 0 && input.rest.take 3 == [sign, sign, sign] &&
    endsWord (input.rest.drop 3)

/-- Whether a document begins or ends here. -/
def atDocumentMark (input : Input) : Bool :=
  input.atMark '-' || input.atMark '.'

end Input

end MarkupLint.Yaml
