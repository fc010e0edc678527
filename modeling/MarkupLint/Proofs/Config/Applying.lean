import MarkupLint.Proofs.Config.Reachable
import MarkupLint.Proofs.Linter.Engine

/-!
# What setting rules does

Setting one rule turns it off before its entry is looked at, so afterwards the rule has the
setting that the entry comes to, or none if the entry is refused (`setting?_configure`). Applying
an object does this name by name: the names in front of the first one that is refused are set by
their entries, that one is off, and nothing else has changed (`exists_middle`). What an entry
comes to depends on the table of rules and on the entry alone.
-/

namespace MarkupLint.Config

/-! ## Entries -/

/-- What an entry comes to for a rule. It is refused for its shape, for its
word of severity or the number of its items, or for its options; or else it
turns the rule off, or on with the options that the rule accepted. -/
inductive Settles (rule : Rule) : Json → Except ConfigError (Option Setting) → Prop where
  | null : Settles rule .null (.ok none)
  | misshapen {entry : Json} (written : entry ≠ .null) (unread : RawSetting.ofJson? entry = none) :
      Settles rule entry (.error (.invalidSetting rule.name .unknownShape))
  | refused {entry : Json} {raw : RawSetting} {problem : SettingProblem}
      (read : RawSetting.ofJson? entry = some raw) (refused : raw.normalize = .error problem) :
      Settles rule entry (.error (.invalidSetting rule.name problem))
  | off {entry : Json} {raw : RawSetting} (read : RawSetting.ofJson? entry = some raw)
      (off : raw.normalize = .ok none) : Settles rule entry (.ok none)
  | unacceptable {entry options : Json} {raw : RawSetting} {severity : Severity} {message : String}
      (read : RawSetting.ofJson? entry = some raw)
      (normal : raw.normalize = .ok (some (severity, options)))
      (refused : rule.validate options = .error message) :
      Settles rule entry (.error (.invalidOptions (rule.refusalName options) message))
  | on {entry options accepted : Json} {raw : RawSetting} {severity : Severity}
      (read : RawSetting.ofJson? entry = some raw)
      (normal : raw.normalize = .ok (some (severity, options)))
      (accepts : rule.validate options = .ok accepted) :
      Settles rule entry (.ok (some ⟨severity, accepted⟩))

/-- What an entry comes to is worked out as it should be. -/
theorem settles_resolve (rule : Rule) (entry : Json) :
    Settles rule entry (resolve rule (some entry)) := by
  rw [resolve, Option.getD_some]
  split
  · exact .null
  · rename_i written
    split
    · rename_i unread
      exact .misshapen written unread
    · rename_i raw read
      split
      · rename_i problem refused
        exact .refused read refused
      · rename_i off
        exact .off read off
      · rename_i severity options normal
        split
        · rename_i message refused
          exact .unacceptable read normal refused
        · rename_i accepted accepts
          exact .on read normal accepts

theorem Settles.resolve_eq {rule : Rule} {entry : Json}
    {result : Except ConfigError (Option Setting)} (settles : Settles rule entry result) :
    resolve rule (some entry) = result := by
  have written {raw : RawSetting} (read : RawSetting.ofJson? entry = some raw) :
      entry ≠ .null := by
    rintro rfl
    cases read
  rw [resolve, Option.getD_some]
  cases settles with
  | null => rfl
  | misshapen written unread => simp [unread]
  | refused read refused =>
      have := written read
      simp [read, refused]
  | off read off =>
      have := written read
      simp [read, off]
  | unacceptable read normal refused =>
      have := written read
      simp [read, normal, refused]
  | on read normal accepts =>
      have := written read
      simp [read, normal, accepts]

theorem settles_iff {rule : Rule} {entry : Json} {result : Except ConfigError (Option Setting)} :
    Settles rule entry result ↔ resolve rule (some entry) = result :=
  ⟨Settles.resolve_eq, fun same => same ▸ settles_resolve rule entry⟩

/-- Options that a rule is on with were accepted by that rule. -/
theorem exists_accepted_of_resolve {rule : Rule} {given? : Option Json} {setting : Setting}
    (resolved : resolve rule given? = .ok (some setting)) :
    ∃ options, rule.validate options = .ok setting.options := by
  cases given? with
  | none => cases resolved
  | some entry =>
      have settles := settles_iff.mpr resolved
      cases settles with
      | on read normal accepts => exact ⟨_, accepts⟩

/-! ## One rule -/

/-- The setting that is left: none if the entry was refused. -/
def settingOf : Except ConfigError (Option Setting) → Option Setting
  | .ok setting => setting
  | .error _ => none

/-- The reason why an entry was refused. -/
def refusalOf : Except ConfigError (Option Setting) → Option ConfigError
  | .ok _ => none
  | .error failure => some failure

section Configure

variable {config : Config} {rule : Rule} (registered : config.index.contains rule.name = true)

include registered

/-- A rule that is set has the setting its entry comes to; no other rule is affected. -/
theorem setting?_configure (raw : Json) (name : String) :
    (config.configure rule raw).config.setting? name =
      if rule.name = name then settingOf (resolve rule (raw.get? rule.name))
      else config.setting? name := by
  simp only [configure, registered, if_true]
  split
  · rename_i failure resolved
    simp only [setting?, NameMap.get?_erase, resolved]
    rfl
  · rename_i resolved
    simp only [setting?, NameMap.get?_erase, resolved]
    rfl
  · rename_i setting resolved
    simp only [setting?, NameMap.get?_insert, NameMap.get?_erase, resolved]
    split <;> rfl

theorem failure_configure (raw : Json) :
    (config.configure rule raw).failure = refusalOf (resolve rule (raw.get? rule.name)) := by
  simp only [configure, registered, if_true]
  split <;> rename_i resolved <;> rw [resolved] <;> rfl

theorem log_configure {raw : Json} {setting : Option Setting}
    (resolved : resolve rule (raw.get? rule.name) = .ok setting) :
    (config.configure rule raw).log = [settingEntry rule.name setting] := by
  simp only [configure, registered, if_true]
  cases setting <;> rw [resolved]

end Configure

theorem sorted_settings_configure {config : Config} (sorted : NameMap.Sorted config.settings)
    (rule : Rule) (raw : Json) : NameMap.Sorted (config.configure rule raw).config.settings := by
  unfold configure
  split
  · simp only
    split
    · exact sorted.erase rule.name
    · exact sorted.erase rule.name
    · exact (sorted.erase rule.name).insert rule.name _
  · exact sorted

/-! ## Finding rules -/

/-- The rule found under a name is the rule of that name. -/
theorem Indexed.findRule_eq_ok_iff {config : Config} (indexed : config.Indexed) {name : String}
    {rule : Rule} : config.findRule name = .ok rule ↔ rule ∈ config.rules ∧ rule.name = name := by
  have found : config.rule? name = some rule ↔ rule ∈ config.rules ∧ rule.name = name := by
    simp only [rule?, bind, Option.bind_eq_some_iff, indexed.place, ruleNames, List.getElem?_map,
      Option.map_eq_some_iff]
    constructor
    · rintro ⟨place, ⟨other, otherAt, named⟩, ruleAt⟩
      obtain rfl := Option.some.inj (otherAt.symm.trans ruleAt)
      exact ⟨List.mem_of_getElem? ruleAt, named⟩
    · rintro ⟨mem, named⟩
      obtain ⟨place, ruleAt⟩ := List.mem_iff_getElem?.mp mem
      exact ⟨place, ⟨rule, ruleAt, named⟩, ruleAt⟩
  rw [← found, findRule]
  cases config.rule? name <;> simp

theorem Indexed.exists_findRule_iff {config : Config} (indexed : config.Indexed) {name : String} :
    (∃ rule, config.findRule name = .ok rule) ↔ name ∈ config.ruleNames := by
  simp only [indexed.findRule_eq_ok_iff, ruleNames, List.mem_map]

theorem findRule_eq_error {config : Config} {name : String} {failure : ConfigError}
    (missing : config.findRule name = .error failure) : failure = .ruleNotFound name := by
  unfold findRule at missing
  split at missing
  · contradiction
  · cases missing
    rfl

theorem SameTable.findRule_eq {config next : Config} (same : SameTable config next)
    (name : String) : next.findRule name = config.findRule name := by
  rw [findRule, findRule, rule?, rule?, same.rules, same.index]

/-! ## Several rules -/

/-- What the entry of a name comes to: a name without a rule is refused as well. -/
def outcome (config : Config) (raw : Json.Fields) (name : String) :
    Except ConfigError (Option Setting) :=
  match config.findRule name with
  | .error failure => .error failure
  | .ok rule => resolve rule (raw.get? name)

theorem SameTable.outcome_eq {config next : Config} (same : SameTable config next)
    (raw : Json.Fields) (name : String) : next.outcome raw name = config.outcome raw name := by
  rw [outcome, outcome, same.findRule_eq]

theorem Indexed.outcome_of_mem {config : Config} (indexed : config.Indexed) {rule : Rule}
    (mem : rule ∈ config.rules) (raw : Json.Fields) :
    config.outcome raw rule.name = resolve rule (raw.get? rule.name) := by
  rw [outcome, indexed.findRule_eq_ok_iff.mpr ⟨mem, rfl⟩]

/-- A name that comes to a setting is that of a rule, which accepted the options. -/
theorem Indexed.exists_rule_of_outcome {config : Config} (indexed : config.Indexed)
    {raw : Json.Fields} {name : String} {setting? : Option Setting}
    (settled : config.outcome raw name = .ok setting?) :
    ∃ rule ∈ config.rules, rule.name = name ∧ resolve rule (raw.get? name) = .ok setting? := by
  unfold outcome at settled
  split at settled
  · contradiction
  · rename_i rule found
    obtain ⟨mem, named⟩ := indexed.findRule_eq_ok_iff.mp found
    exact ⟨rule, mem, named, settled⟩

/-- Behind a name that is not refused, the others are applied to the
configuration in which it is set. -/
theorem Indexed.applyNames_of_ok {config : Config} (indexed : config.Indexed) {raw : Json.Fields}
    {name : String} {setting : Option Setting} (settled : config.outcome raw name = .ok setting) :
    ∃ middle, SameTable config middle ∧
      (∀ other, middle.setting? other = if name = other then setting else config.setting? other) ∧
      ∀ names, config.applyNames raw (name :: names) =
        { middle.applyNames raw names with
          log := settingEntry name setting :: (middle.applyNames raw names).log } := by
  obtain ⟨rule, mem, rfl, resolved⟩ := indexed.exists_rule_of_outcome settled
  have registered := (indexed.contains_iff rule.name).mpr (List.mem_map_of_mem mem)
  have resolved : resolve rule ((Json.object raw).get? rule.name) = .ok setting := resolved
  refine ⟨(config.configure rule (.object raw)).config, sameTable_configure _ _ _, ?_, ?_⟩
  · intro other
    rw [setting?_configure registered, resolved]
    rfl
  · intro names
    have passes : (config.configure rule (.object raw)).failure = none := by
      rw [failure_configure registered, resolved]
      rfl
    simp only [applyNames, indexed.findRule_eq_ok_iff.mpr ⟨mem, rfl⟩, passes,
      log_configure registered resolved, List.singleton_append]

/-- A name that is refused ends the run, and its rule is off. -/
theorem Indexed.applyNames_of_error {config : Config} (indexed : config.Indexed)
    {raw : Json.Fields} {name : String} {failure : ConfigError}
    (refused : config.outcome raw name = .error failure) (names : List String) :
    (config.applyNames raw (name :: names)).failure = some failure ∧
      (config.applyNames raw (name :: names)).log = [] ∧
      ∀ other, (config.applyNames raw (name :: names)).config.setting? other =
        if name = other ∧ name ∈ config.ruleNames then none else config.setting? other := by
  unfold outcome at refused
  split at refused
  · rename_i missing
    cases refused
    have unregistered : name ∉ config.ruleNames := by
      rw [← indexed.exists_findRule_iff, missing]
      rintro ⟨rule, found⟩
      cases found
    simp [applyNames, missing, unregistered]
  · rename_i rule found
    obtain ⟨mem, rfl⟩ := indexed.findRule_eq_ok_iff.mp found
    have nameMem : rule.name ∈ config.ruleNames := List.mem_map_of_mem mem
    have registered := (indexed.contains_iff rule.name).mpr nameMem
    have resolved : resolve rule ((Json.object raw).get? rule.name) = .error failure := refused
    have stops : (config.configure rule (.object raw)).failure = some failure := by
      rw [failure_configure registered, resolved]
      rfl
    have applied : config.applyNames raw (rule.name :: names) =
        config.configure rule (.object raw) := by
      simp only [applyNames, found, stops]
    rw [applied]
    refine ⟨stops, ?_, ?_⟩
    · simp only [configure, registered, if_true, resolved]
    · intro other
      rw [setting?_configure registered, resolved]
      simp [nameMem, settingOf]

/-- Names that are not refused are all set, one after the other; then the others are applied. -/
theorem Indexed.exists_middle {config : Config} (indexed : config.Indexed) {raw : Json.Fields}
    {names : List String}
    (settled : ∀ name ∈ names, ∃ setting, config.outcome raw name = .ok setting) :
    ∃ middle, SameTable config middle ∧
      (∀ other, middle.setting? other =
        if other ∈ names then settingOf (config.outcome raw other) else config.setting? other) ∧
      ∀ rest, config.applyNames raw (names ++ rest) =
        { middle.applyNames raw rest with
          log := names.map (fun name => settingEntry name (settingOf (config.outcome raw name))) ++
            (middle.applyNames raw rest).log } := by
  induction names generalizing config with
  | nil => exact ⟨config, SameTable.refl config, fun other => rfl, fun rest => rfl⟩
  | cons name names ih =>
      obtain ⟨setting, first⟩ := settled name List.mem_cons_self
      obtain ⟨next, same, nextSettings, nextApplied⟩ := indexed.applyNames_of_ok first
      have others : ∀ other ∈ names, ∃ setting, next.outcome raw other = .ok setting := by
        intro other mem
        rw [same.outcome_eq]
        exact settled other (List.mem_cons_of_mem name mem)
      obtain ⟨middle, sameMiddle, middleSettings, middleApplied⟩ :=
        ih (indexed.of_sameTable same) others
      refine ⟨middle, same.trans sameMiddle, ?_, ?_⟩
      · intro other
        rw [middleSettings, nextSettings, same.outcome_eq]
        by_cases later : other ∈ names
        · simp [later]
        · by_cases here : name = other
          · subst here
            simp [later, first, settingOf]
          · simp [later, here, Ne.symm here]
      · intro rest
        rw [List.cons_append, nextApplied, middleApplied]
        simp only [same.outcome_eq, first, settingOf, List.map_cons, List.cons_append]

/-! ## Objects -/

/-- The entry of the name is not refused. -/
def Passes (config : Config) (raw : Json.Fields) (name : String) : Prop :=
  ∃ setting, config.outcome raw name = .ok setting

/-- What is logged of a name that is set. -/
def entryOf (config : Config) (raw : Json.Fields) (name : String) : Log.Entry :=
  settingEntry name (settingOf (config.outcome raw name))

theorem not_passes_iff {config : Config} {raw : Json.Fields} {name : String} :
    ¬ config.Passes raw name ↔ ∃ failure, config.outcome raw name = .error failure := by
  cases result : config.outcome raw name <;> simp [Passes, result]

/-- The names of an object all pass, or a first one is refused. -/
theorem passes_or_first_refused (config : Config) (raw : Json.Fields) :
    (∀ name ∈ raw.names, config.Passes raw name) ∨
      ∃ earlier refused later failure, raw.names = earlier ++ refused :: later ∧
        (∀ name ∈ earlier, config.Passes raw name) ∧
        config.outcome raw refused = .error failure := by
  rcases forall_or_exists_first (config.Passes raw) raw.names with
    all | ⟨earlier, refused, later, split, passes, fails⟩
  · exact Or.inl all
  · obtain ⟨failure, failed⟩ := not_passes_iff.mp fails
    exact Or.inr ⟨earlier, refused, later, failure, split, passes, failed⟩

/-- If no name is refused, each is set by its entry, and nothing else changes. -/
theorem Indexed.apply_of_passes {config : Config} (indexed : config.Indexed) {raw : Json.Fields}
    (passes : ∀ name ∈ raw.names, config.Passes raw name) :
    (config.apply raw).failure = none ∧
    (config.apply raw).log = raw.names.map (config.entryOf raw) ∧
      ∀ other, (config.apply raw).config.setting? other =
        if other ∈ raw.names then settingOf (config.outcome raw other)
        else config.setting? other := by
  obtain ⟨middle, same, settings, applied⟩ := indexed.exists_middle passes
  have whole := applied []
  rw [List.append_nil] at whole
  rw [apply, whole]
  exact ⟨rfl, List.append_nil _, settings⟩

/-- If a name is refused, those in front of it are set, its own rule is off,
and nothing else changes. -/
theorem Indexed.apply_of_refused {config : Config} (indexed : config.Indexed) {raw : Json.Fields}
    {earlier later : List String} {refused : String} {failure : ConfigError}
    (split : raw.names = earlier ++ refused :: later)
    (passes : ∀ name ∈ earlier, config.Passes raw name)
    (failed : config.outcome raw refused = .error failure) :
    (config.apply raw).failure = some failure ∧
    (config.apply raw).log = earlier.map (config.entryOf raw) ∧
      ∀ other, (config.apply raw).config.setting? other =
        if other ∈ earlier then settingOf (config.outcome raw other)
        else if refused = other ∧
            refused ∈ config.ruleNames then none else config.setting? other := by
  obtain ⟨middle, same, settings, applied⟩ := indexed.exists_middle passes
  have failedThere : middle.outcome raw refused = .error failure := by
    rw [same.outcome_eq, failed]
  obtain ⟨stops, silent, left⟩ := (indexed.of_sameTable same).applyNames_of_error failedThere later
  rw [apply, split, applied]
  refine ⟨stops, ?_, ?_⟩
  · rw [silent]
    exact List.append_nil _
  · intro other
    have sameNames : middle.ruleNames = config.ruleNames := by
      rw [ruleNames, ruleNames, same.rules]
    rw [left, settings, sameNames]
    by_cases here : refused = other ∧ refused ∈ config.ruleNames
    · have notEarlier : other ∉ earlier := by
        intro mem
        obtain ⟨setting, settled⟩ := passes other mem
        rw [← here.1, failed] at settled
        cases settled
      rw [if_pos here, if_neg notEarlier, if_pos here]
    · rw [if_neg here, if_neg here]

end MarkupLint.Config
