import MarkupLint.Config.Basic
import MarkupLint.Proofs.NameMap

/-!
# Configurations that can be reached

A configuration is made from nothing, from a list of rules or from the built-in
rules, and then changed by registering rules and by setting them, whether this
succeeds or not. Only registering changes the table of rules, and it refuses a
name that the index holds; so along every such run the names of the rules stay
distinct and the index finds each of them at its place (`Reachable.indexed`).
-/

namespace MarkupLint

namespace Config

/-! ## Runs -/

/-- One change of a configuration. A change that fails counts too, with
whatever it has done by then. -/
inductive Step (config : Config) : Config → Prop where
  | register (rule : Rule) : Step config (config.register rule).config
  | configure (rule : Rule) (raw : Json) : Step config (config.configure rule raw).config
  | apply (raw : Json.Fields) : Step config (config.apply raw).config
  | enableAll (severity : Severity) : Step config (config.enableAll severity).config

/-- The configurations that come about by changes from one without rules, from one of a list of
rules or from the one of the built-in rules. -/
inductive Reachable : Config → Prop where
  | empty : Reachable .empty
  | ofRules {rules : List Rule} {config : Config} (made : Config.ofRules rules = .ok config) :
      Reachable config
  | builtin : Reachable .builtin
  | step {config next : Config} (reached : Reachable config) (step : Step config next) :
      Reachable next

/-! ## The table of rules -/

/-- Both configurations have the same rules, in the same places. -/
structure SameTable (config next : Config) : Prop where
  rules : next.rules = config.rules
  index : next.index = config.index

theorem SameTable.refl (config : Config) : SameTable config config :=
  ⟨rfl, rfl⟩

theorem SameTable.trans {config middle next : Config} (first : SameTable config middle)
    (second : SameTable middle next) : SameTable config next :=
  ⟨second.rules.trans first.rules, second.index.trans first.index⟩

theorem sameTable_configure (config : Config) (rule : Rule) (raw : Json) :
    SameTable config (config.configure rule raw).config := by
  unfold configure
  split
  · simp only
    split <;> exact ⟨rfl, rfl⟩
  · exact SameTable.refl config

/-- What setting any one rule keeps, applying an object keeps. -/
theorem applyNames_induction {motive : Config → Prop}
    (step : ∀ config rule raw, motive config → motive (config.configure rule raw).config)
    {config : Config} (started : motive config) (raw : Json.Fields) (names : List String) :
    motive (config.applyNames raw names).config := by
  induction names generalizing config with
  | nil => exact started
  | cons name names ih =>
      rw [applyNames]
      split
      · exact started
      · rename_i rule found
        have next := step config rule (.object raw) started
        simp only
        split
        · exact next
        · exact ih next

theorem sameTable_applyNames (config : Config) (raw : Json.Fields) (names : List String) :
    SameTable config (config.applyNames raw names).config := by
  apply applyNames_induction (motive := SameTable config) ?_ (SameTable.refl config)
  intro middle rule raw same
  exact same.trans (sameTable_configure middle rule raw)

/-- Setting rules leaves the table as it is. -/
theorem sameTable_apply (config : Config) (raw : Json.Fields) :
    SameTable config (config.apply raw).config :=
  sameTable_applyNames config raw raw.names

/-! ## The index -/

/-- The names of the rules are distinct, and the index finds each at its
place, and nothing else. -/
structure Indexed (config : Config) : Prop where
  distinct : config.ruleNames.Nodup
  place : ∀ name place, config.index.get? name = some place ↔ config.ruleNames[place]? = some name

theorem Indexed.contains_iff {config : Config} (indexed : config.Indexed) (name : String) :
    config.index.contains name = true ↔ name ∈ config.ruleNames := by
  rw [NameMap.contains_eq_isSome_get?, Option.isSome_iff_exists, List.mem_iff_getElem?]
  exact exists_congr (indexed.place name)

theorem Indexed.of_sameTable {config next : Config} (indexed : config.Indexed)
    (same : SameTable config next) : next.Indexed := by
  constructor
  · rw [ruleNames, same.rules]
    exact indexed.distinct
  · rw [ruleNames, same.rules, same.index]
    exact indexed.place

theorem indexed_empty : Config.empty.Indexed := by
  constructor
  · exact List.nodup_nil
  · intro name place
    simp [empty, ruleNames]

/-- Behind the names there are, a new one stands at the place that their number gives. -/
theorem getElem?_concat_iff {names : List String} {added name : String} {place : Nat} :
    (names ++ [added])[place]? = some name ↔
      names[place]? = some name ∨ place = names.length ∧ added = name := by
  by_cases early : place < names.length
  · rw [List.getElem?_append_left early]
    have elsewhere : place ≠ names.length := Nat.ne_of_lt early
    simp [elsewhere]
  · have late := Nat.le_of_not_lt early
    have absent : names[place]? = none := List.getElem?_eq_none late
    rw [List.getElem?_append_right late, List.getElem?_singleton, absent]
    by_cases last : place = names.length
    · simp [last]
    · have beyond : place - names.length ≠ 0 := by omega
      simp [last, beyond]

theorem ruleNames_withRule (config : Config) (rule : Rule) :
    (config.withRule rule).ruleNames = config.ruleNames ++ [rule.name] := by
  rw [ruleNames, withRule, List.map_append]
  rfl

/-- A new rule stands at the end, where the index finds it, and the others keep their places. -/
theorem Indexed.withRule {config : Config} (indexed : config.Indexed) {rule : Rule}
    (free : rule.name ∉ config.ruleNames) : (config.withRule rule).Indexed := by
  have length : config.ruleNames.length = config.rules.length := List.length_map _
  constructor
  · rw [ruleNames_withRule, List.nodup_append]
    refine ⟨indexed.distinct, List.pairwise_singleton _ _, ?_⟩
    intro name mem other otherMem same
    rw [List.mem_singleton.mp otherMem] at same
    exact free (same ▸ mem)
  · intro name place
    rw [ruleNames_withRule, Config.withRule, NameMap.get?_insert, getElem?_concat_iff, length]
    by_cases same : rule.name = name
    · subst same
      have untaken : config.ruleNames[place]? ≠ some rule.name :=
        fun taken => free (List.mem_of_getElem? taken)
      simp [untaken, eq_comm]
    · simp [same, indexed.place]

/-! ## Registering -/

section Register

variable {config : Config} (indexed : config.Indexed) {rule : Rule}
include indexed

/-- A rule whose name is taken is refused, and nothing changes. -/
theorem Indexed.register_of_mem (taken : rule.name ∈ config.ruleNames) :
    config.register rule = ⟨config, [], some (.duplicateRule rule.name)⟩ := by
  rw [Config.register, if_pos ((indexed.contains_iff rule.name).mpr taken)]

theorem Indexed.register_of_not_mem (free : rule.name ∉ config.ruleNames) :
    config.register rule = ⟨config.withRule rule, [], none⟩ := by
  rw [Config.register, if_neg (mt (indexed.contains_iff rule.name).mp free)]

theorem Indexed.register (rule : Rule) : (config.register rule).config.Indexed := by
  by_cases taken : rule.name ∈ config.ruleNames
  · rw [indexed.register_of_mem taken]
    exact indexed
  · rw [indexed.register_of_not_mem taken]
    exact indexed.withRule taken

theorem Indexed.registerAll_cons_of_mem (taken : rule.name ∈ config.ruleNames)
    (rules : List Rule) :
    config.registerAll (rule :: rules) = .error (.duplicateRule rule.name) := by
  rw [registerAll, List.foldlM_cons, indexed.register_of_mem taken]
  rfl

theorem Indexed.registerAll_cons_of_not_mem (free : rule.name ∉ config.ruleNames)
    (rules : List Rule) :
    config.registerAll (rule :: rules) = (config.withRule rule).registerAll rules := by
  rw [registerAll, List.foldlM_cons, indexed.register_of_not_mem free]
  rfl

end Register

theorem Indexed.registerAll {config next : Config} {rules : List Rule} (indexed : config.Indexed)
    (made : config.registerAll rules = .ok next) : next.Indexed := by
  induction rules generalizing config with
  | nil =>
      cases made
      exact indexed
  | cons rule rules ih =>
      by_cases taken : rule.name ∈ config.ruleNames
      · rw [indexed.registerAll_cons_of_mem taken] at made
        cases made
      · rw [indexed.registerAll_cons_of_not_mem taken] at made
        exact ih (indexed.withRule taken) made

/-! ## Runs keep the index right -/

/-- The configuration of the built-in rules is the one of their list. -/
theorem ofRules_builtin : Config.ofRules Rule.builtin = .ok Config.builtin := by
  rfl

theorem Indexed.step {config next : Config} (indexed : config.Indexed) (step : Step config next) :
    next.Indexed := by
  cases step with
  | register rule => exact indexed.register rule
  | configure rule raw => exact indexed.of_sameTable (sameTable_configure config rule raw)
  | apply raw => exact indexed.of_sameTable (sameTable_apply config raw)
  | enableAll severity => exact indexed.of_sameTable (sameTable_apply config _)

/-- In every configuration that can be reached, names are distinct and the index is right. -/
theorem Reachable.indexed {config : Config} (reached : Reachable config) : config.Indexed := by
  induction reached with
  | empty => exact indexed_empty
  | ofRules made => exact indexed_empty.registerAll made
  | builtin => exact indexed_empty.registerAll ofRules_builtin
  | step reached step ih => exact ih.step step

end Config

end MarkupLint
