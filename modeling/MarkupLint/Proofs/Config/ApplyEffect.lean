import MarkupLint.Proofs.Config.Invariant
import MarkupLint.Proofs.Text.Utf8

/-!
# The effect of applying an object

An object of settings fails exactly if one of its names has no rule or an entry that
its rule refuses. If it passes, each rule it names has the setting its entry comes
to, whatever was set before. If it fails, this holds of the names below the least one
that is refused, the rule of that name is off, and the others keep their settings. So
applying an object a second time changes nothing (`Reachable.apply_apply`), and
turning all rules on works exactly if every rule accepts the default options.
-/

namespace MarkupLint.Config

/-! ## Objects -/

/-- The object turns the rule of a name on or off, as its entry says. The
rules alone matter, not what was set before. -/
def SetsTo (rules : List Rule) (raw : Json.Fields) (name : String) (setting? : Option Setting) :
    Prop :=
  ∃ rule ∈ rules, rule.name = name ∧
    ∃ entry, raw.get? name = some entry ∧ Settles rule entry (.ok setting?)

/-- Why an object is refused at a name: no rule has it, or the rule that has
it refuses the entry. -/
inductive RefusedAt (rules : List Rule) (raw : Json.Fields) (name : String) :
    ConfigError → Prop where
  | unregistered (absent : ∀ rule ∈ rules, rule.name ≠ name) :
      RefusedAt rules raw name (.ruleNotFound name)
  | entry {rule : Rule} {entry : Json} {failure : ConfigError} (mem : rule ∈ rules)
      (named : rule.name = name) (given : raw.get? name = some entry)
      (settles : Settles rule entry (.error failure)) : RefusedAt rules raw name failure

theorem Indexed.setsTo_of_outcome {config : Config} (indexed : config.Indexed) {raw : Json.Fields}
    {name : String} (mem : name ∈ raw.names) {setting? : Option Setting}
    (settled : config.outcome raw name = .ok setting?) :
    SetsTo config.rules raw name setting? := by
  obtain ⟨rule, ruleMem, named, resolved⟩ := indexed.exists_rule_of_outcome settled
  obtain ⟨entry, given⟩ := Option.isSome_iff_exists.mp (NameMap.mem_names_iff.mp mem)
  rw [given] at resolved
  exact ⟨rule, ruleMem, named, entry, given, settles_iff.mpr resolved⟩

/-- A name of an object is refused exactly if its outcome is a failure. -/
theorem Indexed.refusedAt_iff {config : Config} (indexed : config.Indexed) {raw : Json.Fields}
    {name : String} (mem : name ∈ raw.names) {failure : ConfigError} :
    RefusedAt config.rules raw name failure ↔ config.outcome raw name = .error failure := by
  constructor
  · intro refused
    cases refused with
    | unregistered absent =>
        unfold outcome
        split
        · rename_i missing
          rw [findRule_eq_error missing]
        · rename_i rule found
          obtain ⟨ruleMem, named⟩ := indexed.findRule_eq_ok_iff.mp found
          exact absurd named (absent rule ruleMem)
    | entry ruleMem named given settles =>
        subst named
        rw [indexed.outcome_of_mem ruleMem, given]
        exact settles.resolve_eq
  · intro failed
    unfold outcome at failed
    split at failed
    · rename_i missing
      rw [← Except.error.inj failed, findRule_eq_error missing]
      apply RefusedAt.unregistered
      intro rule ruleMem named
      rw [indexed.findRule_eq_ok_iff.mpr ⟨ruleMem, named⟩] at missing
      cases missing
    · rename_i rule found
      obtain ⟨ruleMem, named⟩ := indexed.findRule_eq_ok_iff.mp found
      obtain ⟨entry, given⟩ := Option.isSome_iff_exists.mp (NameMap.mem_names_iff.mp mem)
      rw [given] at failed
      exact .entry ruleMem named given (settles_iff.mpr failed)

theorem Indexed.failure_apply_eq_none_iff {config : Config} (indexed : config.Indexed)
    {raw : Json.Fields} :
    (config.apply raw).failure = none ↔ ∀ name ∈ raw.names, config.Passes raw name := by
  constructor
  · intro succeeded
    rcases config.passes_or_first_refused raw with
      passes | ⟨earlier, refused, later, failure, split, passes, failed⟩
    · exact passes
    · rw [(indexed.apply_of_refused split passes failed).1] at succeeded
      cases succeeded
  · exact fun passes => (indexed.apply_of_passes passes).1

/-- An object fails exactly if one of its names is refused. -/
theorem Indexed.failure_apply_ne_none_iff {config : Config} (indexed : config.Indexed)
    {raw : Json.Fields} :
    (config.apply raw).failure ≠ none ↔
      ∃ name ∈ raw.names, ∃ failure, RefusedAt config.rules raw name failure := by
  rw [Ne, indexed.failure_apply_eq_none_iff]
  constructor
  · intro notAll
    simp only [not_forall] at notAll
    obtain ⟨name, mem, fails⟩ := notAll
    obtain ⟨failure, failed⟩ := not_passes_iff.mp fails
    exact ⟨name, mem, failure, (indexed.refusedAt_iff mem).mpr failed⟩
  · rintro ⟨name, mem, failure, refused⟩ all
    exact not_passes_iff.mpr ⟨failure, (indexed.refusedAt_iff mem).mp refused⟩ (all name mem)

theorem Indexed.setsTo_of_passes {config : Config} (indexed : config.Indexed) {raw : Json.Fields}
    {name : String} (mem : name ∈ raw.names) (passes : config.Passes raw name) :
    SetsTo config.rules raw name (settingOf (config.outcome raw name)) := by
  obtain ⟨setting, settled⟩ := passes
  rw [settled]
  exact indexed.setsTo_of_outcome mem settled

/-! ## Twice the same object -/

theorem eq_of_setting?_eq {config next : Config} (same : SameTable config next)
    (bound : config.Bound) (nextBound : next.Bound)
    (settings : ∀ name, next.setting? name = config.setting? name) : next = config := by
  have sameSettings := nextBound.sorted.ext bound.sorted settings
  obtain ⟨rules, index⟩ := same
  cases config
  cases next
  simp_all

attribute [ext] Change

/-- Applying an object a second time logs and refuses the same as the first
time, and changes nothing. -/
theorem Reachable.apply_apply {config : Config} (reached : Reachable config) (raw : Json.Fields) :
    (config.apply raw).config.apply raw = config.apply raw := by
  have same := sameTable_apply config raw
  have indexed := reached.indexed
  have nextReached : Reachable (config.apply raw).config := reached.step (.apply raw)
  have nextIndexed := nextReached.indexed
  have twice := sameTable_apply (config.apply raw).config raw
  have twiceBound := (nextReached.step (.apply raw)).bound
  -- what entries come to depends on the table, which stays
  have outcomes : (config.apply raw).config.outcome raw = config.outcome raw :=
    funext fun name => same.outcome_eq raw name
  have entries : (config.apply raw).config.entryOf raw = config.entryOf raw := by
    funext name
    rw [entryOf, entryOf, outcomes]
  have passes_iff : ∀ name, (config.apply raw).config.Passes raw name ↔
      config.Passes raw name := by
    intro name
    rw [Passes, Passes, outcomes]
  have equal (failure : ((config.apply raw).config.apply raw).failure = (config.apply raw).failure)
      (log : ((config.apply raw).config.apply raw).log = (config.apply raw).log)
      (settings : ∀ name, ((config.apply raw).config.apply raw).config.setting? name =
        (config.apply raw).config.setting? name) :
      (config.apply raw).config.apply raw = config.apply raw := by
    have sameConfig := eq_of_setting?_eq twice nextReached.bound twiceBound settings
    exact Change.ext sameConfig log failure
  rcases config.passes_or_first_refused raw with
    passes | ⟨earlier, refused, later, failure, split, passes, failed⟩
  · obtain ⟨succeeds, log, settings⟩ := indexed.apply_of_passes passes
    obtain ⟨nextSucceeds, nextLog, nextSettings⟩ :=
      nextIndexed.apply_of_passes fun name mem => (passes_iff name).mpr (passes name mem)
    apply equal (nextSucceeds.trans succeeds.symm)
    · rw [nextLog, log, entries]
    · intro name
      rw [nextSettings, settings, outcomes]
      split <;> rfl
  · obtain ⟨fails, log, settings⟩ := indexed.apply_of_refused split passes failed
    obtain ⟨nextFails, nextLog, nextSettings⟩ :=
      nextIndexed.apply_of_refused split (fun name mem => (passes_iff name).mpr (passes name mem))
        (outcomes ▸ failed)
    have names : (config.apply raw).config.ruleNames = config.ruleNames := by
      rw [ruleNames, ruleNames, same.rules]
    apply equal (nextFails.trans fails.symm)
    · rw [nextLog, log, entries]
    · intro name
      rw [nextSettings, settings, outcomes, names]
      by_cases mem : name ∈ earlier
      · rw [if_pos mem, if_pos mem]
      · rw [if_neg mem, if_neg mem]
        split <;> rfl

/-! ## All rules -/

theorem settles_toJson {rule : Rule} {options : Json}
    (accepts : rule.validate (.bool true) = .ok options) (severity : Severity) :
    Settles rule severity.toJson (.ok (some ⟨severity, options⟩)) := by
  have normal : (RawSetting.level severity.word).normalize =
      .ok (some (severity, .bool true)) := by
    cases severity <;> rfl
  exact .on rfl normal accepts

theorem settles_toJson_error {rule : Rule} {message : String}
    (refuses : rule.validate (.bool true) = .error message) (severity : Severity) :
    Settles rule severity.toJson
      (.error (.invalidOptions (rule.refusalName (.bool true)) message)) := by
  have normal : (RawSetting.level severity.word).normalize =
      .ok (some (severity, .bool true)) := by
    cases severity <;> rfl
  exact .unacceptable rfl normal refuses

/-- The object that gives every rule one severity. -/
def uniform (config : Config) (severity : Severity) : Json.Fields :=
  NameMap.ofList (config.ruleNames.map fun name => (name, severity.toJson))

theorem mem_names_uniform (config : Config) (severity : Severity) (name : String) :
    name ∈ (config.uniform severity).names ↔ name ∈ config.ruleNames :=
  NameMap.mem_names_ofList_const config.ruleNames severity.toJson name

theorem Indexed.outcome_uniform {config : Config} (indexed : config.Indexed) {rule : Rule}
    (mem : rule ∈ config.rules) (severity : Severity) :
    config.outcome (config.uniform severity) rule.name = resolve rule (some severity.toJson) := by
  have named : rule.name ∈ config.ruleNames := List.mem_map_of_mem mem
  rw [indexed.outcome_of_mem mem, uniform, NameMap.get?_ofList_const, if_pos named]

/-- All rules can be turned on exactly if each of them accepts the default options. -/
theorem Indexed.failure_enableAll_eq_none_iff {config : Config} (indexed : config.Indexed)
    (severity : Severity) :
    (config.enableAll severity).failure = none ↔
      ∀ rule ∈ config.rules, ∃ options, rule.validate (.bool true) = .ok options := by
  have whole : config.enableAll severity = config.apply (config.uniform severity) := rfl
  rw [whole, indexed.failure_apply_eq_none_iff]
  constructor
  · intro passes rule mem
    have named : rule.name ∈ config.ruleNames := List.mem_map_of_mem mem
    obtain ⟨setting, settled⟩ := passes rule.name ((config.mem_names_uniform severity _).mpr named)
    rw [indexed.outcome_uniform mem] at settled
    cases answer : rule.validate (.bool true) with
    | ok options => exact ⟨options, rfl⟩
    | error message =>
        rw [(settles_toJson_error answer severity).resolve_eq] at settled
        cases settled
  · intro accepts name mem
    obtain ⟨rule, ruleMem, rfl⟩ :=
      List.mem_map.mp ((config.mem_names_uniform severity name).mp mem)
    obtain ⟨options, accepted⟩ := accepts rule ruleMem
    refine ⟨some ⟨severity, options⟩, ?_⟩
    rw [indexed.outcome_uniform ruleMem, (settles_toJson accepted severity).resolve_eq]

/-- Then each is on with that severity, and with what it made of the default options. -/
theorem Indexed.setting?_enableAll {config : Config} (indexed : config.Indexed)
    {severity : Severity} (succeeded : (config.enableAll severity).failure = none) {rule : Rule}
    (mem : rule ∈ config.rules) :
    ∃ options, rule.validate (.bool true) = .ok options ∧
      (config.enableAll severity).config.setting? rule.name = some ⟨severity, options⟩ := by
  obtain ⟨options, accepted⟩ :=
    (indexed.failure_enableAll_eq_none_iff severity).mp succeeded rule mem
  have named := (config.mem_names_uniform severity _).mpr (List.mem_map_of_mem mem)
  have passes := indexed.failure_apply_eq_none_iff.mp succeeded
  have settings := (indexed.apply_of_passes passes).2.2 rule.name
  refine ⟨options, accepted, settings.trans ?_⟩
  have settled : config.outcome (config.uniform severity) rule.name =
      .ok (some ⟨severity, options⟩) := by
    rw [indexed.outcome_uniform mem, (settles_toJson accepted severity).resolve_eq]
  exact (if_pos named).trans (congrArg settingOf settled)

/-! ## The effect -/

/-- What is left of a configuration when an object was refused at a name. -/
structure StoppedAt (config next : Config) (raw : Json.Fields) (refused : String) : Prop where
  /-- No name that is refused comes before it in the order of bytes. -/
  least : ∀ name ∈ raw.names, ∀ failure, RefusedAt config.rules raw name failure →
    name = refused ∨ Text.ByteLess refused name
  /-- The names before it are set. -/
  set : ∀ name ∈ raw.names, Text.ByteLess name refused →
    SetsTo config.rules raw name (next.setting? name)
  /-- It is off itself. -/
  off : next.setting? refused = none
  /-- The names behind it, and those the object does not hold, keep their settings. -/
  kept : ∀ name, name ∉ raw.names ∨ Text.ByteLess refused name →
    next.setting? name = config.setting? name

/-- An object that fails is refused at its least name that is, and changes what that says. -/
theorem Reachable.stoppedAt {config : Config} (reached : Reachable config) {raw : Json.Fields}
    (sorted : NameMap.Sorted raw) {failure : ConfigError}
    (failed : (config.apply raw).failure = some failure) :
    ∃ refused ∈ raw.names, RefusedAt config.rules raw refused failure ∧
      StoppedAt config (config.apply raw).config raw refused := by
  have indexed := reached.indexed
  rcases config.passes_or_first_refused raw with
    passes | ⟨earlier, refused, later, cause, split, passes, fails⟩
  · rw [(indexed.apply_of_passes passes).1] at failed
    cases failed
  · obtain ⟨stops, -, settings⟩ := indexed.apply_of_refused split passes fails
    obtain rfl : cause = failure := Option.some.inj (stops.symm.trans failed)
    obtain ⟨below, above⟩ := sorted.lt_of_split split
    have mem : refused ∈ raw.names := split ▸ List.mem_append_right _ List.mem_cons_self
    -- a name of the object that is not in front is the refused one or behind it
    have place : ∀ name ∈ raw.names, name ∈ earlier ∨ name = refused ∨ name ∈ later := by
      intro name nameMem
      rw [split, List.mem_append, List.mem_cons] at nameMem
      exact nameMem
    have notEarlier : refused ∉ earlier := fun front => String.lt_irrefl _ (below refused front)
    refine ⟨refused, mem, (indexed.refusedAt_iff mem).mpr fails, ?_, ?_, ?_, ?_⟩
    · intro name nameMem other refusedThere
      rcases place name nameMem with front | same | behind
      · obtain ⟨setting, settled⟩ := passes name front
        rw [(indexed.refusedAt_iff nameMem).mp refusedThere] at settled
        cases settled
      · exact Or.inl same
      · exact Or.inr (Text.byteLess_iff_lt.mpr (above name behind))
    · intro name nameMem less
      rw [Text.byteLess_iff_lt] at less
      rcases place name nameMem with front | rfl | behind
      · rw [settings, if_pos front]
        exact indexed.setsTo_of_passes nameMem (passes name front)
      · exact absurd less (String.lt_irrefl _)
      · exact absurd (String.lt_trans less (above name behind)) (String.lt_irrefl _)
    · rw [settings, if_neg notEarlier]
      by_cases registered : refused ∈ config.ruleNames
      · rw [if_pos ⟨rfl, registered⟩]
      · rw [if_neg fun both => registered both.2]
        cases set : config.setting? refused with
        | none => rfl
        | some setting =>
            exact absurd (reached.invariant.registered refused setting set) registered
    · intro name outside
      have notFront : name ∉ earlier := by
        intro front
        rcases outside with absent | greater
        · exact absent (split ▸ List.mem_append_left _ front)
        · rw [Text.byteLess_iff_lt] at greater
          exact String.lt_irrefl _ (String.lt_trans greater (below name front))
      have different : refused ≠ name := by
        rintro rfl
        rcases outside with absent | greater
        · exact absent mem
        · exact String.lt_irrefl _ (Text.byteLess_iff_lt.mp greater)
      rw [settings, if_neg notFront, if_neg fun both => different both.1]

/-- An object fails exactly if one of its names has no rule or an entry that its rule refuses. If
it passes, each name is set by its entry and no other rule changes; applied once more, it changes
nothing. If it fails, the reason is that of its least name that is refused, up to which the names
are set. The table of rules and its index stay. So all rules can be turned on exactly if each
accepts the default options, and then each is on with the severity asked for. -/
theorem apply_effect {config : Config} (reached : Reachable config) {raw : Json.Fields}
    (sorted : NameMap.Sorted raw) :
    ((config.apply raw).failure ≠ none ↔
      ∃ name ∈ raw.names, ∃ failure, RefusedAt config.rules raw name failure) ∧
    ((config.apply raw).failure = none →
      (∀ name ∈ raw.names,
        SetsTo config.rules raw name ((config.apply raw).config.setting? name)) ∧
      ∀ name ∉ raw.names, (config.apply raw).config.setting? name = config.setting? name) ∧
    (config.apply raw).config.apply raw = config.apply raw ∧
    (∀ failure, (config.apply raw).failure = some failure →
      ∃ refused ∈ raw.names, RefusedAt config.rules raw refused failure ∧
        StoppedAt config (config.apply raw).config raw refused) ∧
    SameTable config (config.apply raw).config ∧
    ∀ severity,
      ((config.enableAll severity).failure = none ↔
        ∀ rule ∈ config.rules, ∃ options, rule.validate (.bool true) = .ok options) ∧
      ((config.enableAll severity).failure = none → ∀ rule ∈ config.rules,
        ∃ options, rule.validate (.bool true) = .ok options ∧
          (config.enableAll severity).config.setting? rule.name = some ⟨severity, options⟩) := by
  have indexed := reached.indexed
  refine ⟨indexed.failure_apply_ne_none_iff, ?_, reached.apply_apply raw,
    fun failure failed => reached.stoppedAt sorted failed, sameTable_apply config raw, ?_⟩
  · intro succeeded
    have passes := indexed.failure_apply_eq_none_iff.mp succeeded
    obtain ⟨-, -, settings⟩ := indexed.apply_of_passes passes
    constructor
    · intro name mem
      rw [settings, if_pos mem]
      exact indexed.setsTo_of_passes mem (passes name mem)
    · intro name absent
      rw [settings, if_neg absent]
  · intro severity
    refine ⟨indexed.failure_enableAll_eq_none_iff severity, ?_⟩
    intro succeeded rule mem
    exact indexed.setting?_enableAll succeeded mem

/-- Two rules are on, and an object that sets three is refused at the second: the first is set,
the second is off and the third is on as before. -/
theorem apply_effect_refused_between :
    ∃ config raw,
      (∀ name ∈ ["lang-style", "tag-name-match"],
        config.setting? name = some ⟨.warning, .bool true⟩) ∧
      NameMap.Sorted raw ∧ raw.names = ["attr-req-value", "lang-style", "tag-name-match"] ∧
      (config.apply raw).failure =
        some (.invalidOptions "lang-style" "Expected boolean got number") ∧
      (∃ refused ∈ raw.names, StoppedAt config (config.apply raw).config raw refused) ∧
      (config.apply raw).config.setting? "attr-req-value" = some ⟨.error, .bool true⟩ ∧
      (config.apply raw).config.setting? "lang-style" = none ∧
      (config.apply raw).config.setting? "tag-name-match" = some ⟨.warning, .bool true⟩ ∧
      ∀ rule ∈ config.rules, ∃ options, (config.enableAll .error).config.setting? rule.name =
        some ⟨.error, options⟩ := by
  let warned : Json.Fields :=
    [("lang-style", .string "warning"), ("tag-name-match", .string "warning")]
  let raw : Json.Fields := [("attr-req-value", .bool true),
    ("lang-style", .array [.string "error", .ofNat 3]), ("tag-name-match", .bool false)]
  have reached : Reachable (builtin.apply warned).config := .step .builtin (.apply warned)
  have sorted : NameMap.Sorted raw := by
    unfold NameMap.Sorted
    decide +kernel
  have failed : ((builtin.apply warned).config.apply raw).failure =
      some (.invalidOptions "lang-style" "Expected boolean got number") := by rfl
  obtain ⟨-, -, -, stopped, -, all⟩ := apply_effect reached sorted
  obtain ⟨refused, mem, -, stoppedAt⟩ := stopped _ failed
  have accepts : ∀ rule ∈ (builtin.apply warned).config.rules,
      ∃ options, rule.validate (.bool true) = .ok options := by
    rw [(sameTable_apply builtin warned).rules]
    intro rule ruleMem
    simp only [builtin, Rule.builtin, List.mem_cons, List.not_mem_nil, or_false] at ruleMem
    rcases ruleMem with rfl | rfl | rfl
    · exact ⟨.bool true, rfl⟩
    · exact ⟨.bool true, rfl⟩
    · exact ⟨.bool true, rfl⟩
  refine ⟨(builtin.apply warned).config, raw, ?_, sorted, by rfl, failed,
    ⟨refused, mem, stoppedAt⟩, by rfl, by rfl, by rfl, ?_⟩
  · intro name nameMem
    rcases List.mem_cons.mp nameMem with rfl | nameMem
    · rfl
    · rw [List.mem_singleton.mp nameMem]
      rfl
  · intro rule ruleMem
    obtain ⟨options, -, set⟩ := (all .error).2 ((all .error).1.mpr accepts) rule ruleMem
    exact ⟨options, set⟩

end MarkupLint.Config
