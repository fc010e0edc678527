import MarkupLint.Proofs.Config.Applying

/-!
# Spellings of a setting

A rule is set by a word for a severity and by options, and both can be written in several ways: as
a word, as a list or as an object, with a truth value in place of the word, and without the
options if they are `true`. All spellings of the same word and options do the same
(`spellings_agree`). What has no place for the word is refused, and the rule is off then.
-/

namespace MarkupLint.Config

/-! ## Entries -/

/-- The entry spells a setting by its word and its options. Other fields of an
object do not matter. -/
inductive Spells : String → Json → Json → Prop where
  | word (word : String) : Spells word (.bool true) (.string word)
  | single (word : String) : Spells word (.bool true) (.array [.string word])
  | pair (word : String) (options : Json) : Spells word options (.array [.string word, options])
  | object {word : String} {fields : Json.Fields}
      (severity : fields.get? "severity" = some (.string word))
      (absent : fields.get? "options" = none) : Spells word (.bool true) (.object fields)
  | fullObject {word : String} {options : Json} {fields : Json.Fields}
      (severity : fields.get? "severity" = some (.string word))
      (given : fields.get? "options" = some options) :
      Spells word options (.object fields)
  | on : Spells "error" (.bool true) (.bool true)
  | onSingle : Spells "error" (.bool true) (.array [.bool true])
  | onPair (options : Json) : Spells "error" options (.array [.bool true, options])
  | off : Spells "off" (.bool true) (.bool false)
  | offSingle : Spells "off" (.bool true) (.array [.bool false])

/-- The entry has no word for a severity and no truth value where one has to stand. The problem is
that its shape is not known, or that it is a list without a severity. -/
inductive Misshapen : Json → SettingProblem → Prop where
  | number (value : Json.Number) : Misshapen (.number value) .unknownShape
  | empty : Misshapen (.array []) .noSeverity
  | list {first : Json} (noWord : ∀ word, first ≠ .string word) (noToggle : ∀ on, first ≠ .bool on)
      (rest : List Json) : Misshapen (.array (first :: rest)) .noSeverity
  | object {fields : Json.Fields} (noWord : ∀ word, fields.get? "severity" ≠ some (.string word)) :
      Misshapen (.object fields) .unknownShape

/-- Every spelling is read, and comes down to the word with the options. -/
theorem Spells.exists_read {word : String} {options entry : Json}
    (spells : Spells word options entry) :
    ∃ raw, RawSetting.ofJson? entry = some raw ∧
      raw.normalize = RawSetting.levelWith word options := by
  cases spells with
  | word => exact ⟨.level word, rfl, rfl⟩
  | single => exact ⟨.list [.string word], rfl, rfl⟩
  | pair => exact ⟨.list [.string word, options], rfl, rfl⟩
  | object severity absent =>
      refine ⟨.full word (.bool true), ?_, rfl⟩
      simp only [RawSetting.ofJson?, severity, absent, Option.bind_eq_bind, Option.bind_some]
      rfl
  | fullObject severity given =>
      refine ⟨.full word options, ?_, rfl⟩
      simp only [RawSetting.ofJson?, severity, given, Option.bind_eq_bind, Option.bind_some]
      rfl
  | on => exact ⟨.toggle true, rfl, rfl⟩
  | onSingle => exact ⟨.list [.bool true], rfl, rfl⟩
  | onPair => exact ⟨.list [.bool true, options], rfl, rfl⟩
  | off => exact ⟨.toggle false, rfl, rfl⟩
  | offSingle => exact ⟨.list [.bool false], rfl, rfl⟩

/-- What an entry that is read comes to depends only on its severity and options. -/
theorem resolve_congr {entry other : Json} {raw raw' : RawSetting}
    (read : RawSetting.ofJson? entry = some raw) (read' : RawSetting.ofJson? other = some raw')
    (same : raw.normalize = raw'.normalize) (rule : Rule) :
    resolve rule (some entry) = resolve rule (some other) := by
  have settles := settles_resolve rule other
  generalize resolve rule (some other) = result at settles ⊢
  rw [← settles_iff]
  cases settles with
  | null => contradiction
  | misshapen written unread =>
      rw [unread] at read'
      contradiction
  | refused otherRead refused =>
      cases otherRead.symm.trans read'
      exact .refused read (same.trans refused)
  | off otherRead off =>
      cases otherRead.symm.trans read'
      exact .off read (same.trans off)
  | unacceptable otherRead normal refused =>
      cases otherRead.symm.trans read'
      exact .unacceptable read (same.trans normal) refused
  | on otherRead normal accepts =>
      cases otherRead.symm.trans read'
      exact .on read (same.trans normal) accepts

theorem Spells.resolve_eq {word : String} {options entry other : Json}
    (spells : Spells word options entry) (spells' : Spells word options other) (rule : Rule) :
    resolve rule (some entry) = resolve rule (some other) := by
  rcases spells.exists_read with ⟨raw, read, normal⟩
  rcases spells'.exists_read with ⟨raw', read', normal'⟩
  exact resolve_congr read read' (normal.trans normal'.symm) rule

/-- A word for a severity turns the rule on, if the rule accepts the options. -/
theorem Spells.resolve_on {word : String} {options entry : Json}
    (spells : Spells word options entry) {rule : Rule} {severity : Severity} {accepted : Json}
    (known : RawSetting.readLevel word = .ok (some severity))
    (accepts : rule.validate options = .ok accepted) :
    resolve rule (some entry) = .ok (some ⟨severity, accepted⟩) := by
  rcases spells.exists_read with ⟨raw, read, normal⟩
  have on : raw.normalize = .ok (some (severity, options)) := by
    rw [normal, RawSetting.levelWith, known]
    rfl
  exact (Settles.on read on accepts).resolve_eq

theorem Misshapen.resolve_eq {entry : Json} {problem : SettingProblem}
    (misshapen : Misshapen entry problem) (rule : Rule) :
    resolve rule (some entry) = .error (.invalidSetting rule.name problem) := by
  rw [← settles_iff]
  cases misshapen with
  | number value => exact .misshapen (fun null => nomatch null) rfl
  | empty =>
      have read : RawSetting.ofJson? (.array []) = some (.list []) := rfl
      exact .refused read rfl
  | @list first noWord noToggle rest =>
      have read : RawSetting.ofJson? (.array (first :: rest)) = some (.list (first :: rest)) := rfl
      refine .refused read ?_
      cases first with
      | string word => exact absurd rfl (noWord word)
      | bool on => exact absurd rfl (noToggle on)
      | null | number | array | object => rfl
  | @object fields noWord =>
      refine .misshapen (fun null => nomatch null) ?_
      simp only [RawSetting.ofJson?, Option.bind_eq_bind]
      cases found : fields.get? "severity" with
      | none => rfl
      | some value =>
          cases value with
          | string word => exact absurd found (noWord word)
          | null | bool | number | array | object => rfl

/-! ## Setting rules -/

/-- Setting a rule depends only on what its entry comes to. -/
theorem configure_congr {config : Config} {rule : Rule} {raw raw' : Json}
    (same : resolve rule (raw.get? rule.name) = resolve rule (raw'.get? rule.name)) :
    config.configure rule raw = config.configure rule raw' := by
  rw [configure, configure, same]

theorem isActive_eq_isSome (config : Config) (name : String) :
    config.isActive name = (config.setting? name).isSome :=
  NameMap.contains_eq_isSome_get? config.settings name

/-- Entries that spell the same word and options set a rule to the same effect: the rule is on if
the word is that of a severity and the rule accepts the options. An entry without a place for the
word is refused; the rule is off then, and the others are as they were. -/
theorem spellings_agree {config : Config} (reached : Reachable config) {rule : Rule}
    (registered : rule.name ∈ config.ruleNames) :
    (∀ (word : String) (options entry raw : Json), Spells word options entry →
      raw.get? rule.name = some entry →
      (∀ other raw' : Json, Spells word options other → raw'.get? rule.name = some other →
        config.configure rule raw = config.configure rule raw') ∧
      ∀ (severity : Severity) (accepted : Json), RawSetting.readLevel word = .ok (some severity) →
        rule.validate options = .ok accepted →
        (config.configure rule raw).failure = none ∧
          (config.configure rule raw).config.setting? rule.name = some ⟨severity, accepted⟩) ∧
    ∀ (entry raw : Json) (problem : SettingProblem), Misshapen entry problem →
      raw.get? rule.name = some entry →
      (config.configure rule raw).failure = some (.invalidSetting rule.name problem) ∧
        (config.configure rule raw).config.isActive rule.name = false ∧
        ∀ name ≠ rule.name, (config.configure rule raw).config.setting? name =
          config.setting? name := by
  have indexed := (reached.indexed.contains_iff rule.name).mpr registered
  constructor
  · intro word options entry raw spells given
    constructor
    · intro other raw' spells' given'
      apply configure_congr
      rw [given, given', spells.resolve_eq spells']
    · intro severity accepted known accepts
      have resolved := spells.resolve_on known accepts
      rw [failure_configure indexed, setting?_configure indexed, if_pos rfl, given, resolved]
      exact ⟨rfl, rfl⟩
  · intro entry raw problem misshapen given
    have resolved := misshapen.resolve_eq rule
    rw [failure_configure indexed, isActive_eq_isSome, setting?_configure indexed, if_pos rfl,
      given, resolved]
    refine ⟨rfl, rfl, ?_⟩
    intro name different
    rw [setting?_configure indexed, if_neg (Ne.symm different)]

/-- An object that sets the rule on the language of a document. -/
def languageEntry (entry : Json) : Json :=
  .object [(Rule.languageStyle.name, entry)]

theorem get?_languageEntry (entry : Json) :
    (languageEntry entry).get? Rule.languageStyle.name = some entry := by
  simp [languageEntry, Json.get?, NameMap.get?_cons]

/-- Options are given in a list, and in an object with a field that nobody
reads; a number is refused. -/
theorem spellings_agree_strict_language :
    builtin.configure Rule.languageStyle
      (languageEntry (.array [.string "Warn", .string "case"])) =
      builtin.configure Rule.languageStyle (languageEntry
        (.object [("note", .null), ("options", .string "case"), ("severity", .string "Warn")])) ∧
    (builtin.configure Rule.languageStyle (languageEntry (.array [.string "Warn", .string "case"]))
      ).config.setting? Rule.languageStyle.name = some ⟨.warning, .string "case"⟩ ∧
    (builtin.configure Rule.languageStyle (languageEntry (.ofNat 2))).failure =
      some (.invalidSetting Rule.languageStyle.name .unknownShape) := by
  have registered : Rule.languageStyle.name ∈ builtin.ruleNames := by decide
  have notOff : RawSetting.isOff "Warn" = false := by decide +kernel
  have word : Severity.ofWord? "Warn" = some .warning := by decide +kernel
  have known : RawSetting.readLevel "Warn" = .ok (some .warning) := by
    simp [RawSetting.readLevel, notOff, word]
  have spells : Spells "Warn" (.string "case")
      (.object [("note", .null), ("options", .string "case"), ("severity", .string "Warn")]) :=
    .fullObject (by simp [NameMap.get?_cons]) (by simp [NameMap.get?_cons])
  rcases spellings_agree .builtin registered with ⟨agree, refused⟩
  rcases agree "Warn" (.string "case") _ _ (.pair _ _) (get?_languageEntry _) with ⟨same, on⟩
  exact ⟨same _ _ spells (get?_languageEntry _), (on .warning _ known rfl).2,
    (refused _ _ _ (.number _) (get?_languageEntry _)).1⟩

end MarkupLint.Config
