import MarkupLint.Json.Number
import MarkupLint.NameMap

/-!
# JSON values

Objects that are read keep their fields as a map: sorted by name, with one field for each name,
the last one if a name is repeated. Objects that are written for a fixed record keep the order of
that record; `sorted` turns such a value into the form in which it would be read.
-/

namespace MarkupLint

/-- A JSON value. -/
inductive Json where
  | null
  | bool (value : Bool)
  | number (value : Json.Number)
  | string (value : String)
  | array (items : List Json)
  | object (fields : List (String × Json))
deriving Repr, Inhabited

namespace Json

/-- The fields of an object. -/
abbrev Fields := NameMap Json

/-- The value of a field of an object; a value that is no object has no fields. -/
def get? : Json → String → Option Json
  | .object fields, name => NameMap.get? fields name
  | _, _ => none

/-- The number of a natural number. -/
def ofNat (n : Nat) : Json :=
  .number (.integer n)

/-- The word for the kind of a value. -/
def kind : Json → String
  | .null => "null"
  | .bool _ => "boolean"
  | .number _ => "number"
  | .string _ => "string"
  | .array _ => "array"
  | .object _ => "object"

mutual

/-- The value with the fields of every object in it sorted by name. -/
def sorted : Json → Json
  | .array items => .array (sortedItems items)
  | .object fields => .object (sortedFields fields)
  | value => value

/-- The items of an array, each in sorted form. -/
def sortedItems : List Json → List Json
  | [] => []
  | item :: items => item.sorted :: sortedItems items

/-- The fields of an object, sorted, each value in sorted form. An earlier
field gives way to a later one of the same name. -/
def sortedFields : List (String × Json) → List (String × Json)
  | [] => []
  | (name, value) :: fields =>
      let rest := sortedFields fields
      if NameMap.contains rest name then rest else NameMap.insert name value.sorted rest

end

mutual

/-- Whether two values are equal; doubles are compared as doubles. -/
def same : Json → Json → Bool
  | .null, .null => true
  | .bool first, .bool second => first == second
  | .number first, .number second => first.same second
  | .string first, .string second => first == second
  | .array first, .array second => sameItems first second
  | .object first, .object second => sameFields first second
  | _, _ => false

/-- Whether two lists of values are equal item by item. -/
def sameItems : List Json → List Json → Bool
  | [], [] => true
  | first :: firsts, second :: seconds => first.same second && sameItems firsts seconds
  | _, _ => false

/-- Whether two lists of fields are equal field by field. -/
def sameFields : List (String × Json) → List (String × Json) → Bool
  | [], [] => true
  | (name, first) :: firsts, (other, second) :: seconds =>
      name == other && first.same second && sameFields firsts seconds
  | _, _ => false

end

end Json

end MarkupLint
