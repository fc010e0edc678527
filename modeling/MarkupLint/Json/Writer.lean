import MarkupLint.Json.Value

/-!
# Writing JSON text

Two layouts are in use: a compact one without any blanks, and one with a line for each item and
each field. They differ in nothing but the blanks. Strings escape the quote, the backslash and the
control characters; everything else stands for itself.
-/

namespace MarkupLint.Json

/-- A hexadecimal digit in lower case. -/
def hexDigit (n : Nat) : Char :=
  Nat.digitChar (n % 16)

/-- How a character is written inside a string. -/
def writeChar (c : Char) : List Char :=
  if c = '"' then ['\\', '"']
  else if c = '\\' then ['\\', '\\']
  else if c = '\x08' then ['\\', 'b']
  else if c = '\x0c' then ['\\', 'f']
  else if c = '\n' then ['\\', 'n']
  else if c = '\r' then ['\\', 'r']
  else if c = '\t' then ['\\', 't']
  else if c.toNat < 0x20 then ['\\', 'u', '0', '0', hexDigit (c.toNat / 16), hexDigit c.toNat]
  else [c]

/-- A string between quotes. -/
def writeString (text : String) : List Char :=
  '"' :: text.toList.flatMap writeChar ++ ['"']

/-- The text of a truth value. -/
def writeBool (value : Bool) : List Char :=
  if value then ['t', 'r', 'u', 'e'] else ['f', 'a', 'l', 's', 'e']

/-- How the parts of a value are set apart: what stands in front of an item, a field or the end of
a container at a level of nesting, and what stands between a colon and the value of a field. -/
structure Layout where
  gap : Nat → List Char
  space : List Char

namespace Layout

/-- No blanks at all. -/
def compact : Layout :=
  ⟨fun _ => [], []⟩

/-- A line for each item and each field, indented by two spaces for each level. -/
def pretty : Layout :=
  ⟨fun level => '\n' :: List.replicate (2 * level) ' ', [' ']⟩

end Layout

mutual

/-- The characters of a value at a level of nesting, in front of `rest`. -/
def writeBefore (layout : Layout) (level : Nat) (rest : List Char) : Json → List Char
  | .null => ['n', 'u', 'l', 'l'] ++ rest
  | .bool value => writeBool value ++ rest
  | .number value => value.write ++ rest
  | .string value => writeString value ++ rest
  | .array [] => '[' :: ']' :: rest
  | .array (item :: items) =>
      '[' :: (layout.gap (level + 1) ++
        writeBefore layout (level + 1) (writeItems layout level rest items) item)
  | .object [] => '\x7b' :: '\x7d' :: rest
  | .object ((name, value) :: fields) =>
      '\x7b' :: (layout.gap (level + 1) ++ (writeString name ++ ':' :: (layout.space ++
        writeBefore layout (level + 1) (writeFields layout level rest fields) value)))

/-- The further items of an array, and its end. -/
def writeItems (layout : Layout) (level : Nat) (rest : List Char) : List Json → List Char
  | [] => layout.gap level ++ ']' :: rest
  | item :: items =>
      ',' :: (layout.gap (level + 1) ++
        writeBefore layout (level + 1) (writeItems layout level rest items) item)

/-- The further fields of an object, and its end. -/
def writeFields (layout : Layout) (level : Nat) (rest : List Char) :
    List (String × Json) → List Char
  | [] => layout.gap level ++ '\x7d' :: rest
  | (name, value) :: fields =>
      ',' :: (layout.gap (level + 1) ++ (writeString name ++ ':' :: (layout.space ++
        writeBefore layout (level + 1) (writeFields layout level rest fields) value)))

end

/-- The text of a value without blanks. -/
def compact (value : Json) : String :=
  String.ofList (writeBefore .compact 0 [] value)

/-- The text of a value with one line for each item and field. -/
def pretty (value : Json) : String :=
  String.ofList (writeBefore .pretty 0 [] value)

end MarkupLint.Json
