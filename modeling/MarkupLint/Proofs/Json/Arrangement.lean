import MarkupLint.Json.Value
import MarkupLint.Proofs.NameMap

/-!
# Arrangements of a value

A record that is written has its fields in the order of the record; as a value, in the order of
their names. Both are arrangements: they may move the fields of an object, at any depth, and
change nothing else. What holds of every arrangement is said once (`Arranges`). A value whose
objects are sorted maps at every depth is canonical, and sorting leaves it as it is.
-/

namespace MarkupLint.Json

/-- The function moves the fields of objects, at any depth, and does nothing else. -/
structure Arranges (arrange : Json → Json) : Prop where
  null : arrange .null = .null
  bool : ∀ value, arrange (.bool value) = .bool value
  number : ∀ value, arrange (.number value) = .number value
  string : ∀ value, arrange (.string value) = .string value
  array : ∀ items, arrange (.array items) = .array (items.map arrange)
  object : ∀ fields : Fields, fields.names.Nodup → ∃ moved : Fields,
    arrange (.object fields) = .object moved ∧
    ∀ name, moved.get? name = (fields.get? name).map arrange

theorem arranges_id : Arranges id where
  null := rfl
  bool _ := rfl
  number _ := rfl
  string _ := rfl
  array items := by rw [List.map_id, id]
  object fields _ := ⟨fields, rfl, fun name => by rw [Option.map_id, id]⟩

theorem sortedItems_eq_map (items : List Json) : sortedItems items = items.map sorted := by
  induction items with
  | nil => rfl
  | cons item items ih => rw [sortedItems, ih, List.map_cons]

/-- Sorting keeps the value of each field, in sorted form. -/
theorem get?_sortedFields {fields : Fields} (distinct : fields.names.Nodup) (name : String) :
    NameMap.get? (sortedFields fields) name = (NameMap.get? fields name).map sorted := by
  induction fields generalizing name with
  | nil => rfl
  | cons field fields ih =>
      obtain ⟨first, value⟩ := field
      obtain ⟨fresh, distinctRest⟩ := List.nodup_cons.mp distinct
      have unseen : NameMap.contains (sortedFields fields) first = false := by
        rw [NameMap.contains_eq_isSome_get?, ih distinctRest, NameMap.get?_eq_none_iff.mpr fresh]
        rfl
      simp only [sortedFields, unseen, Bool.false_eq_true, if_false]
      rw [NameMap.get?_insert, NameMap.get?_cons, ih distinctRest]
      split <;> rfl

theorem arranges_sorted : Arranges sorted where
  null := rfl
  bool _ := rfl
  number _ := rfl
  string _ := rfl
  array items := by rw [sorted, sortedItems_eq_map]
  object fields distinct := ⟨sortedFields fields, by rw [sorted], get?_sortedFields distinct⟩

/-! ## Canonical values -/

mutual

/-- Every object of the value, at any depth, is a sorted map. -/
def Canonical : Json → Prop
  | .array items => CanonicalItems items
  | .object fields => NameMap.Sorted fields ∧ CanonicalFields fields
  | _ => True

/-- Every item is canonical. -/
def CanonicalItems : List Json → Prop
  | [] => True
  | item :: items => item.Canonical ∧ CanonicalItems items

/-- The value of every field is canonical. -/
def CanonicalFields : List (String × Json) → Prop
  | [] => True
  | (_, value) :: fields => value.Canonical ∧ CanonicalFields fields

end

instance (fields : Fields) : Decidable (NameMap.Sorted fields) :=
  inferInstanceAs (Decidable (fields.Pairwise fun first second => first.1 < second.1))

mutual

/-- Decides whether a value is canonical. -/
def decideCanonical : (json : Json) → Decidable json.Canonical
  | .null | .bool _ | .number _ | .string _ => .isTrue trivial
  | .array items => decideCanonicalItems items
  | .object fields =>
      @instDecidableAnd (NameMap.Sorted fields) (CanonicalFields fields) inferInstance
        (decideCanonicalFields fields)

/-- Decides whether all items are canonical. -/
def decideCanonicalItems : (items : List Json) → Decidable (CanonicalItems items)
  | [] => .isTrue trivial
  | item :: items =>
      @instDecidableAnd item.Canonical (CanonicalItems items) (decideCanonical item)
        (decideCanonicalItems items)

/-- Decides whether the values of all fields are canonical. -/
def decideCanonicalFields : (fields : List (String × Json)) → Decidable (CanonicalFields fields)
  | [] => .isTrue trivial
  | (_, value) :: fields =>
      @instDecidableAnd value.Canonical (CanonicalFields fields) (decideCanonical value)
        (decideCanonicalFields fields)

end

instance : DecidablePred Canonical :=
  decideCanonical

theorem CanonicalFields.get? {fields : Fields} (canonical : CanonicalFields fields) {name : String}
    {value : Json} (found : fields.get? name = some value) : value.Canonical := by
  induction fields with
  | nil => cases found
  | cons field fields ih =>
      obtain ⟨first, kept⟩ := field
      rw [NameMap.get?_cons] at found
      split at found
      · cases found
        exact canonical.1
      · exact ih canonical.2 found

/-- A field that comes first by name stays first. -/
theorem insert_of_sorted {name : String} {value : Json} {fields : Fields}
    (sorted : NameMap.Sorted ((name, value) :: fields)) :
    NameMap.insert name value fields = (name, value) :: fields := by
  cases fields with
  | nil => rfl
  | cons field fields =>
      have less := (List.pairwise_cons.mp sorted).1 field List.mem_cons_self
      rw [NameMap.insert, if_pos less]

mutual

/-- Sorting leaves a canonical value as it is. -/
theorem sorted_of_canonical (json : Json) (canonical : json.Canonical) : json.sorted = json := by
  cases json with
  | null | bool | number | string => rfl
  | array items => rw [sorted, sortedItems_of_canonical items canonical]
  | object fields => rw [sorted, sortedFields_of_canonical fields canonical.1 canonical.2]

theorem sortedItems_of_canonical (items : List Json) (canonical : CanonicalItems items) :
    sortedItems items = items := by
  cases items with
  | nil => rfl
  | cons item items =>
      rw [sortedItems, sorted_of_canonical item canonical.1,
        sortedItems_of_canonical items canonical.2]

theorem sortedFields_of_canonical (fields : List (String × Json)) (sorted : NameMap.Sorted fields)
    (canonical : CanonicalFields fields) : sortedFields fields = fields := by
  cases fields with
  | nil => rfl
  | cons field fields =>
      obtain ⟨name, value⟩ := field
      have unseen : NameMap.contains fields name = false := by
        rw [NameMap.contains_eq_isSome_get?, sorted.get?_tail]
        rfl
      simp only [sortedFields, sortedFields_of_canonical fields sorted.tail canonical.2, unseen,
        Bool.false_eq_true, if_false]
      rw [sorted_of_canonical value canonical.1, insert_of_sorted sorted]

end

end MarkupLint.Json
