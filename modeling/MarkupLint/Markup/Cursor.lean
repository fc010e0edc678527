import MarkupLint.Markup.Position

/-!
# Finding positions by offset

A cursor looks up positions in one text. The line of an offset comes from a table of the offsets
at which lines start. The column is counted from the position found last, forwards or backwards,
if that one stands on the same line, and from the start of the line otherwise. So a long line is
not counted anew for each position on it, whatever the order in which offsets are asked for.
-/

namespace MarkupLint.Markup

/-- Continues a table of line starts over characters that stand at `offset`. -/
def lineStartsFrom (starts : Array Nat) (offset : Nat) : List Char → Array Nat
  | [] => starts
  | c :: rest =>
      lineStartsFrom (if c = '\n' then starts.push (offset + c.utf8Size) else starts)
        (offset + c.utf8Size) rest

/-- The offsets at which the lines of a text start. -/
def lineStartsOf (text : String) : Array Nat :=
  lineStartsFrom #[0] 0 text.toList

/-- Searches a rising table between `low` and `high` for its first entry beyond `offset`. -/
def partitionBetween (table : Array Nat) (offset low high : Nat) : Nat :=
  if low < high then
    if table.getD ((low + high) / 2) 0 ≤ offset then
      partitionBetween table offset ((low + high) / 2 + 1) high
    else partitionBetween table offset low ((low + high) / 2)
  else low
termination_by high - low

/-- The number of entries of a rising table that are not beyond `offset`. -/
def partitionPoint (table : Array Nat) (offset : Nat) : Nat :=
  partitionBetween table offset 0 table.size

/-- The number of characters of a text between two byte offsets. -/
def countBetween (text : String) (start stop : Nat) : Nat :=
  (String.Pos.Raw.extract text ⟨start⟩ ⟨stop⟩).length

/-- A text with the table of its line starts and the position that was found last. -/
structure Cursor where
  text : String
  lineStarts : Array Nat
  last : Position
deriving DecidableEq, Repr, Inhabited

namespace Cursor

/-- The cursor at the beginning of a text. -/
def ofText (text : String) : Cursor :=
  ⟨text, lineStartsOf text, Position.start⟩

/-- The line on which an offset stands. -/
def lineOf (cursor : Cursor) (offset : Nat) : Nat :=
  partitionPoint cursor.lineStarts offset

/-- The column of an offset on a line, counted from the position found last if
that is on the line. -/
def columnOf (cursor : Cursor) (line offset : Nat) : Nat :=
  if cursor.last.line ≠ line then
    countBetween cursor.text (cursor.lineStarts.getD (line - 1) 0) offset + 1
  else if cursor.last.offset ≤ offset then
    cursor.last.column + countBetween cursor.text cursor.last.offset offset
  else cursor.last.column - countBetween cursor.text offset cursor.last.offset

/-- The position at an offset. -/
def find (cursor : Cursor) (offset : Nat) : Position :=
  ⟨cursor.lineOf offset, cursor.columnOf (cursor.lineOf offset) offset, offset⟩

/-- The cursor that remembers the position at an offset. -/
def moveTo (cursor : Cursor) (offset : Nat) : Cursor :=
  { cursor with last := cursor.find offset }

end Cursor

/-- A computation that looks positions up in one text. -/
abbrev Locating := StateM Cursor

/-- The position at a byte offset of the text. -/
def positionAt (offset : Nat) : Locating Position := do
  let cursor ← get
  set (cursor.moveTo offset)
  return (cursor.moveTo offset).last

/-- The location between two byte offsets of the text. -/
def locationAt (start stop : Nat) : Locating Location := do
  let first ← positionAt start
  let last ← positionAt stop
  return ⟨first, last⟩

end MarkupLint.Markup
