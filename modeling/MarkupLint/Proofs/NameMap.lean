import MarkupLint.NameMap

/-!
# Maps as functions of names

A map is known by what it gives for each name: each operation is described by
its effect on `get?`. The names of a sorted map are distinct, so its pairs are
exactly the values it gives, and two sorted maps that give the same are one
list (`Sorted.ext`). Every operation leaves a sorted map sorted.
-/

namespace MarkupLint.NameMap

variable {α : Type}

/-! ## Looking names up -/

theorem contains_eq_isSome_get? (map : NameMap α) (name : String) :
    contains map name = (get? map name).isSome := by
  induction map with
  | nil => rfl
  | cons pair rest ih =>
      rw [get?_cons, contains, List.any_cons]
      by_cases here : pair.1 = name
      · simp [here]
      · rw [if_neg here, beq_eq_false_iff_ne.mpr here, Bool.false_or]
        exact ih

theorem get?_insert (name other : String) (value : α) (map : NameMap α) :
    get? (insert name value map) other = if name = other then some value else get? map other := by
  by_cases same : name = other
  · subst same
    simp
  · rw [get?_insert_of_ne same, if_neg same]

theorem get?_erase (name other : String) (map : NameMap α) :
    get? (erase map name) other = if name = other then none else get? map other := by
  by_cases same : name = other
  · subst same
    simp
  · rw [get?_erase_of_ne same, if_neg same]

/-- A value that is found stands in the map. -/
theorem mem_of_get? {map : NameMap α} {name : String} {value : α}
    (found : get? map name = some value) : (name, value) ∈ map := by
  induction map with
  | nil => cases found
  | cons pair rest ih =>
      rw [get?_cons] at found
      split at found
      · rename_i here
        cases found
        exact here ▸ List.mem_cons_self
      · exact List.mem_cons_of_mem pair (ih found)

/-- The names of a map are those it gives a value for. -/
theorem mem_names_iff {map : NameMap α} {name : String} :
    name ∈ names map ↔ (get? map name).isSome = true := by
  rw [← contains_eq_isSome_get?, contains, List.any_eq_true, names, List.mem_map]
  simp only [beq_iff_eq]

theorem get?_eq_none_iff {map : NameMap α} {name : String} :
    get? map name = none ↔ name ∉ names map := by
  rw [mem_names_iff, Bool.not_eq_true, Option.isSome_eq_false_iff, Option.isNone_iff_eq_none]

/-- A map made of some names with one value gives that value for these names. -/
theorem get?_ofList_const (names : List String) (value : α) (name : String) :
    get? (ofList (names.map fun name => (name, value))) name =
      if name ∈ names then some value else none := by
  have started : ∀ map : NameMap α,
      get? ((names.map fun name => (name, value)).foldl
        (fun map pair => NameMap.insert pair.1 pair.2 map) map) name =
        if name ∈ names then some value else get? map name := by
    induction names with
    | nil => exact fun map => rfl
    | cons first names ih =>
        intro map
        rw [List.map_cons, List.foldl_cons, ih, get?_insert]
        by_cases later : name ∈ names
        · simp [later]
        · by_cases here : first = name
          · simp [here]
          · simp [later, here, Ne.symm here]
  exact started []

theorem mem_names_ofList_const (names : List String) (value : α) (name : String) :
    name ∈ NameMap.names (ofList (names.map fun name => (name, value))) ↔ name ∈ names := by
  rw [mem_names_iff, get?_ofList_const]
  by_cases mem : name ∈ names <;> simp [mem]

/-! ## Sorted maps -/

theorem Sorted.tail {pair : String × α} {rest : NameMap α} (sorted : Sorted (pair :: rest)) :
    Sorted rest :=
  (List.pairwise_cons.mp sorted).2

/-- The first name of a sorted map stands nowhere else in it. -/
theorem Sorted.get?_tail {name : String} {value : α} {rest : NameMap α}
    (sorted : Sorted ((name, value) :: rest)) : get? rest name = none := by
  rw [get?_eq_none_iff]
  intro mem
  obtain ⟨pair, pairMem, same⟩ := List.mem_map.mp mem
  have less := (List.pairwise_cons.mp sorted).1 pair pairMem
  rw [same] at less
  exact String.lt_irrefl _ less

/-- The pairs of a sorted map are the values it gives. -/
theorem Sorted.mem_iff {map : NameMap α} (sorted : Sorted map) {name : String} {value : α} :
    (name, value) ∈ map ↔ get? map name = some value := by
  refine ⟨?_, mem_of_get?⟩
  induction map with
  | nil => exact fun mem => nomatch mem
  | cons pair rest ih =>
      intro mem
      rw [get?_cons]
      rcases List.mem_cons.mp mem with rfl | later
      · exact if_pos rfl
      · have found := ih sorted.tail later
        have different : pair.1 ≠ name := by
          rintro rfl
          rw [sorted.get?_tail] at found
          cases found
        rw [if_neg different, found]

theorem Sorted.names_nodup {map : NameMap α} (sorted : Sorted map) : (names map).Nodup := by
  rw [List.Nodup, names, List.pairwise_map]
  apply sorted.imp
  intro first second less same
  rw [same] at less
  exact String.lt_irrefl _ less

theorem Sorted.nodup {map : NameMap α} (sorted : Sorted map) : map.Nodup :=
  List.Pairwise.of_map (·.1) (fun _ _ different => mt (congrArg Prod.fst) different)
    sorted.names_nodup

/-- The names around one of them in a sorted map are below it in front of it,
and above it behind it. -/
theorem Sorted.lt_of_split {map : NameMap α} (sorted : Sorted map) {earlier later : List String}
    {name : String} (split : names map = earlier ++ name :: later) :
    (∀ other ∈ earlier, other < name) ∧ ∀ other ∈ later, name < other := by
  have increasing : (names map).Pairwise (· < ·) := List.pairwise_map.mpr sorted
  rw [split, List.pairwise_append, List.pairwise_cons] at increasing
  obtain ⟨-, ⟨above, -⟩, below⟩ := increasing
  exact ⟨fun other mem => below other mem name List.mem_cons_self, above⟩

theorem mem_insert {name : String} {value : α} {map : NameMap α} {pair : String × α}
    (mem : pair ∈ insert name value map) : pair = (name, value) ∨ pair ∈ map := by
  induction map with
  | nil => exact Or.inl (List.mem_singleton.mp mem)
  | cons first rest ih =>
      simp only [insert] at mem
      split at mem
      · exact List.mem_cons.mp mem
      · split at mem
        · rcases List.mem_cons.mp mem with here | later
          · exact Or.inl here
          · exact Or.inr (List.mem_cons_of_mem first later)
        · rcases List.mem_cons.mp mem with here | later
          · exact Or.inr (here ▸ List.mem_cons_self)
          · rcases ih later with new | old
            · exact Or.inl new
            · exact Or.inr (List.mem_cons_of_mem first old)

theorem Sorted.insert {map : NameMap α} (sorted : Sorted map) (name : String) (value : α) :
    Sorted (insert name value map) := by
  induction map with
  | nil => exact List.pairwise_singleton _ _
  | cons first rest ih =>
      obtain ⟨below, sortedRest⟩ := List.pairwise_cons.mp sorted
      simp only [NameMap.insert]
      split
      · rename_i less
        refine List.pairwise_cons.mpr ⟨?_, sorted⟩
        intro pair mem
        rcases List.mem_cons.mp mem with rfl | later
        · exact less
        · exact String.lt_trans less (below pair later)
      · rename_i notLess
        split
        · rename_i same
          exact List.pairwise_cons.mpr ⟨same ▸ below, sortedRest⟩
        · rename_i different
          refine List.pairwise_cons.mpr ⟨?_, ih sortedRest⟩
          intro pair mem
          rcases mem_insert mem with rfl | old
          · -- not below the first name and not equal to it
            apply Decidable.byContradiction
            intro notGreater
            exact different (String.le_antisymm (String.not_lt.mp notGreater)
              (String.not_lt.mp notLess))
          · exact below pair old

theorem Sorted.erase {map : NameMap α} (sorted : Sorted map) (name : String) :
    Sorted (erase map name) :=
  List.Pairwise.filter _ sorted

/-- Sorted maps that give the same for every name are equal. -/
theorem Sorted.ext {first second : NameMap α} (firstSorted : Sorted first)
    (secondSorted : Sorted second) (same : ∀ name, get? first name = get? second name) :
    first = second := by
  have mem_iff : ∀ pair, pair ∈ first ↔ pair ∈ second := by
    rintro ⟨name, value⟩
    rw [firstSorted.mem_iff, secondSorted.mem_iff, same]
  have perm := (List.perm_ext_iff_of_nodup firstSorted.nodup secondSorted.nodup).mpr mem_iff
  refine perm.eq_of_pairwise ?_ firstSorted secondSorted
  intro low high lowMem highMem less greater
  exact absurd (String.lt_trans less greater) (String.lt_irrefl _)

end MarkupLint.NameMap
