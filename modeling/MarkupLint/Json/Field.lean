import MarkupLint.Json.Value

/-!
# Taking values apart

Readers of records look a field up by its name and ask for a value of one kind. A value found in
an object or in an array is smaller than the whole, which is what recursive readers rest on.
-/

namespace MarkupLint.Json

/-- The fields of an object. -/
def toFields? : Json → Option Fields
  | .object fields => some fields
  | _ => none

/-- The items of an array. -/
def toItems? : Json → Option (List Json)
  | .array items => some items
  | _ => none

/-- The text of a string. -/
def toText? : Json → Option String
  | .string text => some text
  | _ => none

/-- A truth value. -/
def toBool? : Json → Option Bool
  | .bool value => some value
  | _ => none

/-- An unsigned 64-bit integer. -/
def toWord? : Json → Option Nat
  | .number value => value.toWord?
  | _ => none

/-- Reads an optional field: nothing if it is missing or null, and otherwise
what `read` makes of it. -/
def optional? {α : Type} (read : Json → Option α) : Option Json → Option (Option α)
  | none => some none
  | some .null => some none
  | some value => (read value).map some

/-- Reads a field that has a default: null does not stand for the default. -/
def default? {α : Type} (fallback : α) (read : Json → Option α) : Option Json → Option α
  | none => some fallback
  | some value => read value

theorem sizeOf_get?_lt {fields : Fields} {name : String} {value : Json}
    (found : NameMap.get? fields name = some value) : sizeOf value < sizeOf fields := by
  induction fields with
  | nil => simp [NameMap.get?] at found
  | cons field rest ih =>
      by_cases here : field.1 == name
      · simp only [NameMap.get?, List.find?_cons, here, Option.map_some,
          Option.some.injEq] at found
        subst found
        cases field
        simp
        omega
      · simp only [Bool.not_eq_true] at here
        have later : NameMap.get? rest name = some value := by
          simpa [NameMap.get?, List.find?_cons, here] using found
        have smaller := ih later
        simp
        omega

/-- An item of an array that stands in a field is smaller than the object. -/
theorem sizeOf_item_lt {fields : Fields} {name : String} {items : List Json} {item : Json}
    (found : NameMap.get? fields name = some (.array items)) (member : item ∈ items) :
    sizeOf item < sizeOf (Json.object fields) := by
  have inArray := List.sizeOf_lt_of_mem member
  have inFields := sizeOf_get?_lt found
  simp at inFields ⊢
  omega

end MarkupLint.Json
