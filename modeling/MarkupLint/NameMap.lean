/-!
# Maps from names

A map from names to values is a list of pairs sorted by name, with one pair
for each name. Names are compared character by character by code point, which
is also the order of their bytes. Since the order of a sorted list says
nothing about the order of insertion, two maps with the same pairs are equal.
-/

namespace MarkupLint

/-- A map from names to values. -/
abbrev NameMap (α : Type) := List (String × α)

namespace NameMap

variable {α : Type}

/-- Puts a pair in its place, replacing one of the same name. -/
def insert (name : String) (value : α) : NameMap α → NameMap α
  | [] => [(name, value)]
  | (first, kept) :: rest =>
      if name < first then (name, value) :: (first, kept) :: rest
      else if name = first then (name, value) :: rest
      else (first, kept) :: insert name value rest

/-- The value of a name. -/
def get? (map : NameMap α) (name : String) : Option α :=
  (map.find? fun pair => pair.1 == name).map (·.2)

/-- Whether a name has a value. -/
def contains (map : NameMap α) (name : String) : Bool :=
  map.any fun pair => pair.1 == name

/-- The map without a name. -/
def erase (map : NameMap α) (name : String) : NameMap α :=
  map.filter fun pair => pair.1 != name

/-- The names, in order. -/
def names (map : NameMap α) : List String :=
  map.map (·.1)

/-- The map of a list of pairs; of two pairs with one name the later is kept. -/
def ofList (pairs : List (String × α)) : NameMap α :=
  pairs.foldl (fun map pair => insert pair.1 pair.2 map) []

/-- A list of pairs is sorted if its names increase strictly. -/
def Sorted (map : NameMap α) : Prop :=
  map.Pairwise fun first second => first.1 < second.1

@[simp]
theorem get?_nil (name : String) : get? ([] : NameMap α) name = none :=
  rfl

theorem get?_cons (first : String) (value : α) (rest : NameMap α) (name : String) :
    get? ((first, value) :: rest) name = if first = name then some value else get? rest name := by
  by_cases here : first = name <;> simp [get?, here]

/-- A name that was put in is found with its value. -/
@[simp]
theorem get?_insert_self (name : String) (value : α) (map : NameMap α) :
    get? (insert name value map) name = some value := by
  induction map with
  | nil => simp [insert, get?_cons]
  | cons pair rest ih =>
      obtain ⟨first, kept⟩ := pair
      simp only [insert]
      split
      · simp [get?_cons]
      · split
        · simp [get?_cons]
        · rename_i different
          simp [get?_cons, Ne.symm different, ih]

/-- Putting a name in changes no other name. -/
theorem get?_insert_of_ne {name other : String} (different : name ≠ other) (value : α)
    (map : NameMap α) : get? (insert name value map) other = get? map other := by
  induction map with
  | nil => simp [insert, get?_cons, different]
  | cons pair rest ih =>
      obtain ⟨first, kept⟩ := pair
      simp only [insert]
      split
      · simp [get?_cons, different]
      · split
        · rename_i equal
          subst equal
          simp [get?_cons, different]
        · simp [get?_cons, ih]

/-- A name that was taken out is not found. -/
@[simp]
theorem get?_erase_self (name : String) (map : NameMap α) : get? (erase map name) name = none := by
  simp [get?, erase, List.find?_filter]

/-- Taking a name out changes no other name. -/
theorem get?_erase_of_ne {name other : String} (different : name ≠ other) (map : NameMap α) :
    get? (erase map name) other = get? map other := by
  induction map with
  | nil => rfl
  | cons pair rest ih =>
      obtain ⟨first, kept⟩ := pair
      simp only [erase] at ih
      by_cases here : first = name
      · subst here
        simp [erase, get?_cons, different, ih]
      · simp [erase, get?_cons, here, ih]

end NameMap

end MarkupLint
