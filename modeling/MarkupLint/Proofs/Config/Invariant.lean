import MarkupLint.Proofs.Config.Applying
import MarkupLint.Proofs.Linter.Independence

/-!
# What holds of a configuration along every run

A run starts from a configuration of some rules, all of them off, and does any operations in any
order; one that fails counts with whatever it has done by then. Along every run the index finds
the rules by their names, only rules that are registered have settings, and the options of a
setting were accepted by a rule of that name, one through which the run set it (`run_invariant`).
-/

namespace MarkupLint.Config

/-! ## Runs -/

/-- A call that may change a configuration. -/
inductive Operation where
  | register (rule : Rule)
  | configure (rule : Rule) (raw : Json)
  | apply (raw : Json.Fields)
  | enableAll (severity : Severity)

/-- What an operation does, whether it succeeds or fails. -/
def Operation.change (config : Config) : Operation → Change
  | .register rule => config.register rule
  | .configure rule raw => config.configure rule raw
  | .apply raw => config.apply raw
  | .enableAll severity => config.enableAll severity

/-- The configuration after some operations. -/
def after (config : Config) : List Operation → Config
  | [] => config
  | operation :: operations => (operation.change config).config.after operations

/-- The configurations a run starts from. -/
inductive Start : Config → Prop where
  | empty : Start .empty
  | ofRules {rules : List Rule} {config : Config} (made : Config.ofRules rules = .ok config) :
      Start config
  | builtin : Start .builtin

/-- The rules through which an operation sets something. -/
def Operation.setters (config : Config) : Operation → List Rule
  | .register _ => []
  | .configure rule _ => [rule]
  | .apply raw => config.rules.filter fun rule => raw.contains rule.name
  | .enableAll _ => config.rules

/-- The rules through which a run sets something. -/
def settersAlong (config : Config) : List Operation → List Rule
  | [] => []
  | operation :: operations =>
      operation.setters config ++ (operation.change config).config.settersAlong operations

/-! ## Registering -/

/-- Rules whose names are distinct, and new, can all be registered. -/
theorem registerAll_of_nodup {config : Config} (indexed : config.Indexed) {rules : List Rule}
    (distinct : (config.ruleNames ++ rules.map Rule.name).Nodup) :
    ∃ next, config.registerAll rules = .ok next ∧ next.settings = config.settings := by
  induction rules generalizing config with
  | nil => exact ⟨config, rfl, rfl⟩
  | cons rule rules ih =>
      have free : rule.name ∉ config.ruleNames := by
        intro taken
        exact (List.nodup_append.mp distinct).2.2 _ taken _ List.mem_cons_self rfl
      have distinctRest : ((config.withRule rule).ruleNames ++ rules.map Rule.name).Nodup := by
        rw [ruleNames_withRule, List.append_assoc]
        exact distinct
      rw [indexed.registerAll_cons_of_not_mem free]
      exact ih (indexed.withRule free) distinctRest

/-- Of rules that share a name, one is refused. -/
theorem registerAll_of_not_nodup {config : Config} (indexed : config.Indexed) {rules : List Rule}
    (shared : ¬ (config.ruleNames ++ rules.map Rule.name).Nodup) :
    ∃ name, config.registerAll rules = .error (.duplicateRule name) ∧
      2 ≤ (config.ruleNames ++ rules.map Rule.name).count name := by
  induction rules generalizing config with
  | nil =>
      rw [List.map_nil, List.append_nil] at shared
      exact absurd indexed.distinct shared
  | cons rule rules ih =>
      by_cases taken : rule.name ∈ config.ruleNames
      · refine ⟨rule.name, indexed.registerAll_cons_of_mem taken rules, ?_⟩
        have once := List.count_pos_iff.mpr taken
        rw [List.map_cons, List.count_append, List.count_cons_self]
        omega
      · have names : (config.withRule rule).ruleNames ++ rules.map Rule.name =
            config.ruleNames ++ (rule :: rules).map Rule.name := by
          rw [ruleNames_withRule, List.append_assoc]
          rfl
        rw [← names] at shared ⊢
        rw [indexed.registerAll_cons_of_not_mem taken]
        exact ih (indexed.withRule taken) shared

/-- A list of rules is refused exactly if two of them share a name. -/
theorem exists_ofRules_eq_error_iff (rules : List Rule) :
    (∃ failure, ofRules rules = .error failure) ↔
      ∃ name, 2 ≤ (rules.map Rule.name).count name := by
  constructor
  · rintro ⟨failure, failed⟩
    by_cases distinct : (rules.map Rule.name).Nodup
    · obtain ⟨next, made, -⟩ := registerAll_of_nodup indexed_empty distinct
      rw [ofRules, made] at failed
      cases failed
    · obtain ⟨name, -, twice⟩ := registerAll_of_not_nodup indexed_empty distinct
      exact ⟨name, twice⟩
  · rintro ⟨name, twice⟩
    have shared : ¬ (rules.map Rule.name).Nodup := by
      intro distinct
      have once := List.nodup_iff_count.mp distinct name
      omega
    obtain ⟨duplicate, failed, -⟩ := registerAll_of_not_nodup indexed_empty shared
    exact ⟨_, failed⟩

/-! ## Settings -/

/-- The settings are a sorted map, and only rules of the table have any. -/
structure Bound (config : Config) : Prop where
  sorted : NameMap.Sorted config.settings
  registered : ∀ name setting, config.setting? name = some setting →
    config.index.contains name = true

theorem Bound.configure {config : Config} (bound : config.Bound) (rule : Rule) (raw : Json) :
    (config.configure rule raw).config.Bound := by
  by_cases registered : config.index.contains rule.name = true
  · refine ⟨sorted_settings_configure bound.sorted rule raw, ?_⟩
    intro name setting set
    rw [(sameTable_configure config rule raw).index]
    rw [setting?_configure registered] at set
    split at set
    · rename_i same
      exact same ▸ registered
    · exact bound.registered name setting set
  · rw [Config.configure, if_neg registered]
    exact bound

theorem Bound.of_settings_eq_nil {config : Config} (off : config.settings = []) :
    config.Bound where
  sorted := off ▸ List.Pairwise.nil
  registered name setting set := by
    rw [setting?, off] at set
    cases set

theorem Bound.register {config : Config} (bound : config.Bound) (rule : Rule) :
    (config.register rule).config.Bound := by
  unfold Config.register
  split
  · exact bound
  · refine ⟨bound.sorted, ?_⟩
    intro name setting set
    have old := bound.registered name setting set
    rw [NameMap.contains_eq_isSome_get?] at old ⊢
    rw [withRule, NameMap.get?_insert]
    split
    · rfl
    · exact old

theorem Bound.step {config next : Config} (bound : config.Bound) (step : Step config next) :
    next.Bound := by
  have applied : ∀ raw, (config.apply raw).config.Bound := by
    intro raw
    exact applyNames_induction (fun config rule raw bound => bound.configure rule raw) bound
      raw raw.names
  cases step with
  | register rule => exact bound.register rule
  | configure rule raw => exact bound.configure rule raw
  | apply raw => exact applied raw
  | enableAll severity => exact applied _

theorem settings_of_ofRules {rules : List Rule} {config : Config}
    (made : ofRules rules = .ok config) : config.settings = [] := by
  by_cases distinct : (rules.map Rule.name).Nodup
  · obtain ⟨next, done, settings⟩ := registerAll_of_nodup indexed_empty distinct
    obtain rfl := Except.ok.inj (made.symm.trans done)
    exact settings
  · obtain ⟨name, failed, -⟩ := registerAll_of_not_nodup indexed_empty distinct
    rw [ofRules, failed] at made
    cases made

/-- In every configuration that can be reached, the settings are those of rules of the table. -/
theorem Reachable.bound {config : Config} (reached : Reachable config) : config.Bound := by
  induction reached with
  | empty => exact .of_settings_eq_nil rfl
  | ofRules made => exact .of_settings_eq_nil (settings_of_ofRules made)
  | builtin => exact .of_settings_eq_nil rfl
  | step reached step ih => exact ih.step step

/-! ## The invariant -/

/-- What holds of the table, the index and the settings of a configuration. -/
structure Invariant (config : Config) : Prop where
  /-- No two rules share a name. -/
  distinct : config.ruleNames.Nodup
  /-- The index gives each name its place in the order of registration, and holds no other name. -/
  place : ∀ name place, config.index.get? name = some place ↔ config.ruleNames[place]? = some name
  /-- A rule is found exactly if its name is registered. -/
  found : ∀ name, (∃ rule, config.findRule name = .ok rule) ↔ name ∈ config.ruleNames
  /-- The rule found under a name is the one of that name. -/
  named : ∀ name rule, config.findRule name = .ok rule ↔ rule ∈ config.rules ∧ rule.name = name
  /-- Only rules that are registered have a setting. -/
  registered : ∀ name setting, config.setting? name = some setting → name ∈ config.ruleNames
  /-- The rules that are on are listed with each setting once. -/
  once : (config.activeRules.map fun active => (active.1.name, active.2)).Perm config.settings
  /-- The rules that are on are listed in the order of registration. -/
  ordered : (config.activeRules.map Prod.fst).Sublist config.rules

theorem activeRules_sublist (config : Config) :
    (config.activeRules.map Prod.fst).Sublist config.rules := by
  have kept : config.activeRules.map Prod.fst =
      config.rules.filter fun rule => (config.setting? rule.name).isSome := by
    rw [activeRules]
    induction config.rules with
    | nil => rfl
    | cons rule rules ih =>
        cases set : config.setting? rule.name with
        | none => simp [set, ih]
        | some setting => simp [set, ih]
  rw [kept]
  exact List.filter_sublist

/-- The settings in the list of rules that are on are those of the map, each of them once. -/
theorem activeRules_perm_settings {config : Config} (distinct : config.ruleNames.Nodup)
    (sorted : NameMap.Sorted config.settings)
    (registered : ∀ name setting, config.setting? name = some setting → name ∈ config.ruleNames) :
    (config.activeRules.map fun active => (active.1.name, active.2)).Perm config.settings := by
  have names :
      ((config.activeRules.map fun active => (active.1.name, active.2)).map Prod.fst).Nodup := by
    have same : (config.activeRules.map fun active => (active.1.name, active.2)).map Prod.fst =
        (config.activeRules.map Prod.fst).map Rule.name := by
      rw [List.map_map, List.map_map]
      rfl
    rw [same]
    exact List.Pairwise.sublist (config.activeRules_sublist.map Rule.name) distinct
  have nodup := List.Pairwise.of_map Prod.fst (fun _ _ other => mt (congrArg Prod.fst) other) names
  rw [List.perm_ext_iff_of_nodup nodup sorted.nodup]
  rintro ⟨name, setting⟩
  rw [sorted.mem_iff, List.mem_map]
  constructor
  · rintro ⟨⟨rule, found⟩, active, same⟩
    cases same
    exact (mem_activeRules_iff.mp active).2
  · intro set
    obtain ⟨rule, mem, rfl⟩ := List.mem_map.mp (registered name setting set)
    exact ⟨(rule, setting), mem_activeRules_iff.mpr ⟨mem, set⟩, rfl⟩

theorem Reachable.invariant {config : Config} (reached : Reachable config) : config.Invariant := by
  have indexed := reached.indexed
  have bound := reached.bound
  have registered : ∀ name setting, config.setting? name = some setting →
      name ∈ config.ruleNames := by
    intro name setting set
    exact (indexed.contains_iff name).mp (bound.registered name setting set)
  exact ⟨indexed.distinct, indexed.place, fun _ => indexed.exists_findRule_iff,
    fun _ _ => indexed.findRule_eq_ok_iff, registered,
    activeRules_perm_settings indexed.distinct bound.sorted registered, config.activeRules_sublist⟩

theorem Start.reachable {config : Config} (start : Start config) : Reachable config := by
  cases start with
  | empty => exact .empty
  | ofRules made => exact .ofRules made
  | builtin => exact .builtin

theorem Start.settings {config : Config} (start : Start config) : config.settings = [] := by
  cases start with
  | empty => rfl
  | ofRules made => exact settings_of_ofRules made
  | builtin => rfl

theorem Reachable.change {config : Config} (reached : Reachable config) (operation : Operation) :
    Reachable (operation.change config).config := by
  cases operation with
  | register rule => exact reached.step (.register rule)
  | configure rule raw => exact reached.step (.configure rule raw)
  | apply raw => exact reached.step (.apply raw)
  | enableAll severity => exact reached.step (.enableAll severity)

theorem Reachable.after {config : Config} (reached : Reachable config)
    (operations : List Operation) : Reachable (config.after operations) := by
  induction operations generalizing config with
  | nil => exact reached
  | cons operation operations ih => exact ih (reached.change operation)

/-! ## Where options come from -/

/-- A setting that stands after an object was applied stood before, or is what
its entry comes to. -/
theorem Indexed.setting?_apply {config : Config} (indexed : config.Indexed) {raw : Json.Fields}
    {name : String} {setting : Setting}
    (set : (config.apply raw).config.setting? name = some setting) :
    config.setting? name = some setting ∨
      name ∈ raw.names ∧ config.outcome raw name = .ok (some setting) := by
  have settled (passes : config.Passes raw name)
      (left : settingOf (config.outcome raw name) = some setting) :
      config.outcome raw name = .ok (some setting) := by
    obtain ⟨result, outcome⟩ := passes
    rw [outcome] at left ⊢
    exact congrArg Except.ok left
  rcases config.passes_or_first_refused raw with
    passes | ⟨earlier, refused, later, failure, split, passes, failed⟩
  · obtain ⟨-, -, settings⟩ := indexed.apply_of_passes passes
    rw [settings] at set
    by_cases mem : name ∈ raw.names
    · rw [if_pos mem] at set
      exact Or.inr ⟨mem, settled (passes name mem) set⟩
    · rw [if_neg mem] at set
      exact Or.inl set
  · obtain ⟨-, -, settings⟩ := indexed.apply_of_refused split passes failed
    rw [settings] at set
    by_cases mem : name ∈ earlier
    · rw [if_pos mem] at set
      exact Or.inr ⟨split ▸ List.mem_append_left _ mem, settled (passes name mem) set⟩
    · rw [if_neg mem] at set
      split at set
      · cases set
      · exact Or.inl set

/-- The options were accepted by one of the rules, under this name. -/
def AcceptedBy (rules : List Rule) (name : String) (options : Json) : Prop :=
  ∃ rule ∈ rules, rule.name = name ∧ ∃ given, rule.validate given = .ok options

theorem AcceptedBy.of_subset {rules others : List Rule} {name : String} {options : Json}
    (accepted : AcceptedBy rules name options) (subset : rules ⊆ others) :
    AcceptedBy others name options := by
  obtain ⟨rule, mem, named, accepts⟩ := accepted
  exact ⟨rule, subset mem, named, accepts⟩

theorem Indexed.acceptedBy_of_apply {config : Config} (indexed : config.Indexed)
    {raw : Json.Fields} {name : String} {setting : Setting}
    (set : (config.apply raw).config.setting? name = some setting) :
    config.setting? name = some setting ∨
      AcceptedBy (config.rules.filter fun rule => raw.contains rule.name)
        name setting.options := by
  refine (indexed.setting?_apply set).imp_right ?_
  rintro ⟨mem, settled⟩
  obtain ⟨rule, ruleMem, rfl, resolved⟩ := indexed.exists_rule_of_outcome settled
  have named : raw.contains rule.name = true := by
    rw [NameMap.contains_eq_isSome_get?]
    exact NameMap.mem_names_iff.mp mem
  exact ⟨rule, List.mem_filter.mpr ⟨ruleMem, named⟩, rfl, exists_accepted_of_resolve resolved⟩

/-- A setting that stands after an operation stood before, or was accepted by
a rule that the operation set. -/
theorem Indexed.acceptedBy_of_change {config : Config} (indexed : config.Indexed)
    (operation : Operation) {name : String} {setting : Setting}
    (set : (operation.change config).config.setting? name = some setting) :
    config.setting? name = some setting ∨
    AcceptedBy (operation.setters config) name setting.options := by
  cases operation with
  | register rule =>
      left
      rw [Operation.change, Config.register] at set
      split at set
      · exact set
      · exact set
  | configure rule raw =>
      by_cases registered : config.index.contains rule.name = true
      · rw [Operation.change, setting?_configure registered] at set
        split at set
        · rename_i same
          right
          refine ⟨rule, List.mem_singleton.mpr rfl, same, ?_⟩
          cases resolved : resolve rule (raw.get? rule.name) with
          | error failure =>
              rw [resolved] at set
              cases set
          | ok found =>
              rw [resolved] at set
              obtain rfl : found = some setting := set
              exact exists_accepted_of_resolve resolved
        · exact Or.inl set
      · rw [Operation.change, Config.configure, if_neg registered] at set
        exact Or.inl set
  | apply raw => exact indexed.acceptedBy_of_apply set
  | enableAll severity =>
      refine (indexed.acceptedBy_of_apply set).imp_right ?_
      exact fun accepted => accepted.of_subset List.filter_sublist.subset

/-- Along a run, every setting stood at its start or was accepted by a rule that the run set. -/
theorem Reachable.acceptedBy_of_after {config : Config} (reached : Reachable config)
    (operations : List Operation) {name : String} {setting : Setting}
    (set : (config.after operations).setting? name = some setting) :
    config.setting? name = some setting ∨
      AcceptedBy (config.settersAlong operations) name setting.options := by
  induction operations generalizing config with
  | nil => exact Or.inl set
  | cons operation operations ih =>
      rcases ih (reached.change operation) set with stood | accepted
      · refine (reached.indexed.acceptedBy_of_change operation stood).imp_right ?_
        exact fun accepted => accepted.of_subset (List.subset_append_left _ _)
      · exact Or.inr (accepted.of_subset (List.subset_append_right _ _))

/-- The rule on the language of a document accepts a truth value or one word. -/
theorem validateLanguageStyle_eq_ok {given options : Json}
    (accepted : Rule.validateLanguageStyle given = .ok options) :
    (∃ value, options = .bool value) ∨ options = .string "case" := by
  unfold Rule.validateLanguageStyle at accepted
  split at accepted
  · exact Or.inl ⟨_, (Except.ok.inj accepted).symm⟩
  · exact Or.inr (Except.ok.inj accepted).symm
  · contradiction
  · contradiction

/-- Along every run, the table, its index and the settings fit together. All options
that are set were accepted by a rule of that name through which the run set them, so
those of the rule on languages are a truth value or one word if they were only ever
set through that rule. A rule whose name is taken is refused, and nothing changes; a
list of rules makes a configuration exactly if no two of them share a name. -/
theorem run_invariant {first : Config} (start : Start first) (operations : List Operation) :
    (first.after operations).Invariant ∧
    (∀ name setting, (first.after operations).setting? name = some setting →
      AcceptedBy (first.settersAlong operations) name setting.options) ∧
    ((∀ rule ∈ first.settersAlong operations, rule.name = Rule.languageStyle.name →
        ∃ classify, rule = Rule.languageStyleWith classify) →
      ∀ setting, (first.after operations).setting? Rule.languageStyle.name = some setting →
        (∃ value, setting.options = .bool value) ∨ setting.options = .string "case") ∧
    (∀ rule, rule.name ∈ (first.after operations).ruleNames →
      (first.after operations).register rule =
        ⟨first.after operations, [], some (.duplicateRule rule.name)⟩) ∧
    (∀ rule, rule.name ∉ (first.after operations).ruleNames →
      ((first.after operations).register rule).failure = none) ∧
    ∀ rules : List Rule,
      (∃ failure, ofRules rules = .error failure) ↔
        ∃ name, 2 ≤ (rules.map Rule.name).count name := by
  have reached := start.reachable.after operations
  have accepted : ∀ name setting, (first.after operations).setting? name = some setting →
      AcceptedBy (first.settersAlong operations) name setting.options := by
    intro name setting set
    rcases start.reachable.acceptedBy_of_after operations set with stood | accepted
    · rw [setting?, start.settings] at stood
      cases stood
    · exact accepted
  refine ⟨reached.invariant, accepted, ?_, ?_, ?_, exists_ofRules_eq_error_iff⟩
  · intro only setting set
    obtain ⟨rule, mem, named, given, accepts⟩ := accepted _ setting set
    obtain ⟨classify, rfl⟩ := only rule mem named
    exact validateLanguageStyle_eq_ok accepts
  · intro rule taken
    exact reached.indexed.register_of_mem taken
  · intro rule free
    rw [reached.indexed.register_of_not_mem free]

/-- A rule is set, then refused and so off beside another that is set, then a second rule of its
name is refused, and then it is set again. -/
theorem run_invariant_refused_between :
    ∃ set refuse register setAgain setting,
      (Operation.change (builtin.after [set]) refuse).failure =
        some (.invalidOptions "lang-style" "Expected boolean got number") ∧
      (builtin.after [set, refuse]).activeRules.map (·.1.name) = ["attr-req-value"] ∧
      (Operation.change (builtin.after [set, refuse]) register).failure =
        some (.duplicateRule "lang-style") ∧
      (builtin.after [set, refuse, register, setAgain]).Invariant ∧
      (builtin.after [set, refuse, register, setAgain]).activeRules.map (·.1.name) =
        ["attr-req-value", "lang-style"] ∧
      (builtin.after [set, refuse, register, setAgain]).setting? "lang-style" = some setting ∧
      ((∃ value, setting.options = .bool value) ∨ setting.options = .string "case") := by
  let set : Operation := .apply [("lang-style", .array [.string "warning", .string "case"])]
  let refuse : Operation :=
    .apply [("attr-req-value", .bool true), ("lang-style", .array [.string "error", .ofNat 3])]
  let register : Operation := .register Rule.languageStyle
  let setAgain : Operation := .configure Rule.languageStyle (.object [("lang-style", .bool true)])
  obtain ⟨invariant, -, languages, -⟩ := run_invariant .builtin [set, refuse, register, setAgain]
  have setters : builtin.settersAlong [set, refuse, register, setAgain] =
      [Rule.languageStyle, Rule.attributeValue, Rule.languageStyle, Rule.languageStyle] := by rfl
  have only : ∀ rule ∈ builtin.settersAlong [set, refuse, register, setAgain],
      rule.name = Rule.languageStyle.name →
      ∃ classify, rule = Rule.languageStyleWith classify := by
    rw [setters]
    intro rule mem named
    simp only [List.mem_cons, List.not_mem_nil, or_false] at mem
    rcases mem with rfl | rfl | rfl | rfl
    · exact ⟨Language.classify, rfl⟩
    · exact absurd named (by decide)
    · exact ⟨Language.classify, rfl⟩
    · exact ⟨Language.classify, rfl⟩
  refine ⟨set, refuse, register, setAgain, ⟨.error, .bool true⟩, by rfl, by rfl, by rfl, invariant,
    by rfl, by rfl, ?_⟩
  exact languages only _ (by rfl)

end MarkupLint.Config
