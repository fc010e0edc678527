import MarkupLint.Json.Value
import MarkupLint.Text.Quoted

/-!
# Descriptions of JSON values

A description names the kind of every value, for messages that are read while
looking for a mistake.
-/

namespace MarkupLint.Json

mutual

/-- The description of a value. -/
def describe : Json → String
  | .null => "Null"
  | .bool value => "Bool(" ++ (if value then "true" else "false") ++ ")"
  | .number value => "Number(" ++ String.ofList value.write ++ ")"
  | .string value => "String(" ++ Text.quoted value ++ ")"
  | .array items => "Array [" ++ ", ".intercalate (describeItems items) ++ "]"
  | .object fields => "Object \x7b" ++ ", ".intercalate (describeFields fields) ++ "\x7d"

/-- The descriptions of the items of an array. -/
def describeItems : List Json → List String
  | [] => []
  | item :: items => item.describe :: describeItems items

/-- The descriptions of the fields of an object. -/
def describeFields : List (String × Json) → List String
  | [] => []
  | (name, value) :: fields =>
      (Text.quoted name ++ ": " ++ value.describe) :: describeFields fields

end

end MarkupLint.Json
