import MarkupLint.Proofs.Config.Spellings

/-!
# Lists that set a rule

A list sets a rule by its level, a word for a severity or a truth value, and by options behind it,
so it has one entry or two. A third entry is refused whatever the entries are
(`long_list_refused`), with one exception: `false` at the front turns the rule off before the
other entries are looked at, however many there are.
-/

namespace MarkupLint.Config

/-! ## Accepted lists -/

/-- The entry of a list is a level: a word that is known, or a truth value. -/
inductive IsLevel : Json → Prop where
  | word {word : String} {severity? : Option Severity}
      (known : RawSetting.readLevel word = .ok severity?) :
      IsLevel (.string word)
  | toggle (on : Bool) : IsLevel (.bool on)

/-- The list is a level, alone or with options. -/
inductive ListForm : List Json → Prop where
  | single {level : Json} (isLevel : IsLevel level) : ListForm [level]
  | pair {level : Json} (isLevel : IsLevel level) (options : Json) : ListForm [level, options]

theorem ListForm.length_le {items : List Json} (form : ListForm items) : items.length ≤ 2 := by
  cases form <;> simp

/-- A word is accepted with any options if it is known. -/
theorem exists_levelWith_eq_ok_iff {word : String} {options : Json} :
    (∃ result, RawSetting.levelWith word options = .ok result) ↔
      ∃ severity?, RawSetting.readLevel word = .ok severity? := by
  unfold RawSetting.levelWith
  cases RawSetting.readLevel word with
  | ok severity? => exact iff_of_true ⟨_, rfl⟩ ⟨severity?, rfl⟩
  | error problem => constructor <;> rintro ⟨_, impossible⟩ <;> cases impossible

/-- Behind a word there is room for one entry. -/
theorem exists_listWith_eq_ok_iff {word : String} {rest : List Json} :
    (∃ result, RawSetting.listWith word rest = .ok result) ↔
      rest.length ≤ 1 ∧ ∃ severity?, RawSetting.readLevel word = .ok severity? := by
  unfold RawSetting.listWith
  split
  · simp [exists_levelWith_eq_ok_iff]
  · simp [exists_levelWith_eq_ok_iff]
  · simp

/-- A list is a level with at most one entry behind it if it has one of the two forms. -/
theorem listForm_cons_iff {level : Json} {rest : List Json} :
    ListForm (level :: rest) ↔ rest.length ≤ 1 ∧ IsLevel level := by
  constructor
  · intro form
    cases form with
    | single isLevel => exact ⟨Nat.zero_le 1, isLevel⟩
    | pair isLevel options => exact ⟨Nat.le_refl 1, isLevel⟩
  · rintro ⟨short, isLevel⟩
    cases rest with
    | nil => exact .single isLevel
    | cons options rest =>
        obtain rfl : rest = [] :=
          List.length_eq_zero_iff.mp (Nat.le_zero.mp (Nat.le_of_succ_le_succ short))
        exact .pair isLevel options

theorem isLevel_string_iff {word : String} :
    IsLevel (.string word) ↔ ∃ severity?, RawSetting.readLevel word = .ok severity? := by
  constructor
  · rintro ⟨known⟩
    exact ⟨_, known⟩
  · rintro ⟨severity?, known⟩
    exact .word known

/-- The accepted lists are those of the two forms, and those that begin with `false`. -/
theorem exists_normalize_eq_ok_iff {items : List Json} :
    (∃ result, (RawSetting.list items).normalize = .ok result) ↔
      ListForm items ∨ items.head? = some (.bool false) := by
  cases items with
  | nil =>
      constructor
      · rintro ⟨_, accepted⟩
        cases accepted
      · rintro (form | front)
        · cases form
        · cases front
  | cons first rest =>
      cases first with
      | string word =>
          rw [listForm_cons_iff, isLevel_string_iff, ← exists_listWith_eq_ok_iff]
          simp [RawSetting.normalize]
      | bool on =>
          cases on with
          | false => exact iff_of_true ⟨none, rfl⟩ (Or.inr rfl)
          | true =>
              have known : ∃ severity?, RawSetting.readLevel Severity.error.word = .ok severity? :=
                ⟨some .error, by rfl⟩
              have isLevel : IsLevel (.bool true) := .toggle true
              have normal : (RawSetting.list (.bool true :: rest)).normalize =
                  RawSetting.listWith Severity.error.word rest := rfl
              rw [normal, exists_listWith_eq_ok_iff, listForm_cons_iff]
              simp [known, isLevel]
      | null | number | array | object =>
          rw [listForm_cons_iff]
          constructor
          · rintro ⟨_, accepted⟩
            cases accepted
          · rintro (⟨-, isLevel⟩ | front)
            · cases isLevel
            · cases front

/-- With `false` at the front the rule is off, whatever follows. -/
theorem normalize_of_head?_eq_false {items : List Json}
    (front : items.head? = some (.bool false)) : (RawSetting.list items).normalize = .ok none := by
  cases items with
  | nil => cases front
  | cons first rest =>
      cases front
      rfl

/-! ## Rules set by a list -/

theorem resolve_of_head?_eq_false {items : List Json} (front : items.head? = some (.bool false))
    (rule : Rule) : resolve rule (some (.array items)) = .ok none := by
  have read : RawSetting.ofJson? (.array items) = some (.list items) := rfl
  exact (Settles.off read (normalize_of_head?_eq_false front)).resolve_eq

/-- A list in neither form is refused. -/
theorem exists_resolve_eq_error {items : List Json} (formless : ¬ ListForm items)
    (front : items.head? ≠ some (.bool false)) (rule : Rule) :
    ∃ problem, resolve rule (some (.array items)) =
      .error (.invalidSetting rule.name problem) := by
  have read : RawSetting.ofJson? (.array items) = some (.list items) := rfl
  cases normal : (RawSetting.list items).normalize with
  | ok result =>
      rcases exists_normalize_eq_ok_iff.mp ⟨result, normal⟩ with form | off
      · exact absurd form formless
      · exact absurd off front
  | error problem => exact ⟨problem, (Settles.refused read normal).resolve_eq⟩

/-- A list of three or more entries is refused for every rule, unless it begins with `false`; in
both cases the rule is off afterwards and the others are as they were. The lists that are accepted
are a level, alone or with options, and those that begin with `false`. -/
theorem long_list_refused {items : List Json} (long : 3 ≤ items.length) (rule : Rule) :
    ((∃ problem, resolve rule (some (.array items)) = .error (.invalidSetting rule.name problem)) ↔
      items.head? ≠ some (.bool false)) ∧
    (∀ config : Config, Reachable config → rule.name ∈ config.ruleNames →
      ∀ raw : Json, raw.get? rule.name = some (.array items) →
        ((config.configure rule raw).failure = none ↔ items.head? = some (.bool false)) ∧
        (config.configure rule raw).config.isActive rule.name = false ∧
        ∀ name ≠ rule.name, (config.configure rule raw).config.setting? name =
          config.setting? name) ∧
    ∀ entries : List Json, (∃ result, (RawSetting.list entries).normalize = .ok result) ↔
      ListForm entries ∨ entries.head? = some (.bool false) := by
  have formless : ¬ ListForm items := fun form => absurd form.length_le (by omega)
  refine ⟨⟨?_, fun front => exists_resolve_eq_error formless front rule⟩, ?_,
    fun _ => exists_normalize_eq_ok_iff⟩
  · rintro ⟨problem, refused⟩ front
    rw [resolve_of_head?_eq_false front rule] at refused
    cases refused
  · intro config reached registered raw given
    have indexed := (reached.indexed.contains_iff rule.name).mpr registered
    have others : ∀ name ≠ rule.name,
        (config.configure rule raw).config.setting? name = config.setting? name := by
      intro name different
      rw [setting?_configure indexed, if_neg (Ne.symm different)]
    rw [failure_configure indexed, isActive_eq_isSome, setting?_configure indexed, if_pos rfl,
      given]
    by_cases front : items.head? = some (.bool false)
    · rw [resolve_of_head?_eq_false front rule]
      exact ⟨iff_of_true rfl front, rfl, others⟩
    · rcases exists_resolve_eq_error formless front rule with ⟨problem, refused⟩
      rw [refused]
      exact ⟨iff_of_false (Option.some_ne_none _) front, rfl, others⟩

/-- Three entries with a word that turns a rule off are refused as those with a severity are. -/
theorem long_list_refused_off :
    (∃ problem, resolve Rule.languageStyle (some (.array [.string "off", .null, .null])) =
      .error (.invalidSetting Rule.languageStyle.name problem)) ∧
    (builtin.configure Rule.languageStyle
      (languageEntry (.array [.string "off", .null, .null]))).failure ≠ none := by
  have registered : Rule.languageStyle.name ∈ builtin.ruleNames := by decide
  have long : 3 ≤ [Json.string "off", .null, .null].length := Nat.le_refl 3
  have front : [Json.string "off", .null, .null].head? ≠ some (.bool false) := by simp
  rcases long_list_refused long Rule.languageStyle with ⟨refused, effect, -⟩
  rcases effect builtin .builtin registered _ (get?_languageEntry _) with ⟨failure, -, -⟩
  exact ⟨refused.mpr front, fun none => front (failure.mp none)⟩

/-- Not every list of three entries is refused: with `false` at the front the rule is turned off
and nothing is said about the other entries. -/
theorem long_list_of_false_accepted :
    resolve Rule.languageStyle (some (.array [.bool false, .null, .null])) = .ok none ∧
    ¬ ∀ (rule : Rule) (items : List Json), 3 ≤ items.length →
      ∃ problem, resolve rule (some (.array items)) =
        .error (.invalidSetting rule.name problem) := by
  have off : resolve Rule.languageStyle (some (.array [.bool false, .null, .null])) = .ok none :=
    rfl
  refine ⟨off, fun refused => ?_⟩
  rcases refused Rule.languageStyle [.bool false, .null, .null] (Nat.le_refl 3) with
    ⟨problem, failed⟩
  rw [off] at failed
  cases failed

end MarkupLint.Config
