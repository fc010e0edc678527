import MarkupLint.Proofs.Linter.Independence

/-!
# Linting with the built-in rules

Each built-in rule is one equation: what it finds at a node, as a list. All it finds has a code
and none of the rules fails, so linting markup with them succeeds whatever they are set to.
-/

namespace MarkupLint

open Markup

namespace Rule

/-! ## What the rules find -/

/-- What is reported of the value that names a language. -/
def languageReport (code : String) (token : Token) : Finding :=
  (Finding.new code token.loc).withData "lang" (.string token.chars)

/-- What is reported of a closing name that is written otherwise than the opening one. -/
def casingReport (opening closing : Token) : Finding :=
  (Finding.new "E030" closing.loc).withData "open" opening.toJson.sorted

theorem findings_attributeValue (node : Node) (options : Json) :
    (attributeValue.check node options).findings =
      node.tag?.toList.flatMap fun tag =>
      (tag.attributes.filter (lacksValue tag)).map missingValue := by
  cases node <;> simp [attributeValue, Node.tag?, Visit.nothing]

theorem findings_languageStyleWith (classify : Language.Classifier) (node : Node)
    (options : Json) :
    ((languageStyleWith classify).check node options).findings =
      ((node.tag?.bind languageToken?).bind fun token =>
        (verdictCode? options (classify token.chars)).map fun code =>
            languageReport code token).toList := by
  simp only [languageStyleWith]
  cases node.tag?.bind languageToken? with
  | none => rfl
  | some token =>
      simp only [Option.bind_some]
      cases verdictCode? options (classify token.chars) <;> rfl

theorem findings_tagNameMatch (node : Node) (options : Json) :
    (tagNameMatch.check node options).findings =
      (node.tag?.bind fun tag =>
        (mismatchedClosing? tag).map (casingReport tag.opening)).toList := by
  simp only [tagNameMatch]
  cases node.tag? with
  | none => rfl
  | some tag =>
      simp only [Option.bind_some]
      cases mismatchedClosing? tag <;> rfl

/-- A built-in rule reports the finding of an element with the tag. -/
inductive Reports (tag : Tag) : Finding → Prop where
  | value {attr : Attribute} (mem : attr ∈ tag.attributes) (lacks : lacksValue tag attr = true) :
      Reports tag (missingValue attr)
  | language {token : Token} {code : String} (language : languageToken? tag = some token)
      (coded : code = "E038" ∨ code = "E039") : Reports tag (languageReport code token)
  | casing {closing : Token} (mismatched : mismatchedClosing? tag = some closing) :
      Reports tag (casingReport tag.opening closing)

theorem mem_builtin_iff {rule : Rule} :
    rule ∈ builtin ↔ rule = attributeValue ∨ rule = languageStyle ∨ rule = tagNameMatch := by
  simp [builtin]

theorem reports_of_mem_attributeValue {node : Node} {options : Json} {finding : Finding}
    (mem : finding ∈ (attributeValue.check node options).findings) :
    ∃ tag, node.tag? = some tag ∧ Reports tag finding := by
  rw [findings_attributeValue] at mem
  rcases List.mem_flatMap.mp mem with ⟨tag, tagged, reported⟩
  rcases List.mem_map.mp reported with ⟨attr, kept, rfl⟩
  rcases List.mem_filter.mp kept with ⟨attrMem, lacks⟩
  exact ⟨tag, Option.mem_toList.mp tagged, .value attrMem lacks⟩

/-- A verdict is reported under one of two codes. -/
theorem code_of_verdictCode? {options : Json} {verdict : Language.Verdict} {code : String}
    (reported : verdictCode? options verdict = some code) : code = "E038" ∨ code = "E039" := by
  cases verdict with
  | valid => contradiction
  | invalidSubtag => exact Or.inl (Option.some.inj reported).symm
  | nonCanonicalCase =>
      by_cases strict : checksCase options = true
      · rw [verdictCode?, if_pos strict] at reported
        exact Or.inr (Option.some.inj reported).symm
      · rw [verdictCode?, if_neg strict] at reported
        contradiction

theorem reports_of_mem_languageStyleWith {classify : Language.Classifier} {node : Node}
    {options : Json} {finding : Finding}
    (mem : finding ∈ ((languageStyleWith classify).check node options).findings) :
    ∃ tag, node.tag? = some tag ∧ Reports tag finding := by
  rw [findings_languageStyleWith, Option.mem_toList] at mem
  rcases Option.bind_eq_some_iff.mp mem with ⟨token, found, reported⟩
  rcases Option.bind_eq_some_iff.mp found with ⟨tag, tagged, language⟩
  rcases Option.map_eq_some_iff.mp reported with ⟨code, verdict, rfl⟩
  exact ⟨tag, tagged, .language language (code_of_verdictCode? verdict)⟩

theorem reports_of_mem_tagNameMatch {node : Node} {options : Json} {finding : Finding}
    (mem : finding ∈ (tagNameMatch.check node options).findings) :
    ∃ tag, node.tag? = some tag ∧ Reports tag finding := by
  rw [findings_tagNameMatch, Option.mem_toList] at mem
  rcases Option.bind_eq_some_iff.mp mem with ⟨tag, tagged, reported⟩
  rcases Option.map_eq_some_iff.mp reported with ⟨closing, mismatched, rfl⟩
  exact ⟨tag, tagged, .casing mismatched⟩

/-- Whatever a built-in rule finds, it finds at an element. -/
theorem reports_of_mem_builtin {rule : Rule} (builtin : rule ∈ builtin) {node : Node}
    {options : Json} {finding : Finding} (mem : finding ∈ (rule.check node options).findings) :
    ∃ tag, node.tag? = some tag ∧ Reports tag finding := by
  rcases mem_builtin_iff.mp builtin with rfl | rfl | rfl
  · exact reports_of_mem_attributeValue mem
  · exact reports_of_mem_languageStyleWith mem
  · exact reports_of_mem_tagNameMatch mem

/-! ## They do not fail -/

theorem isWellFormed_report {code : String} (coded : Text.isBlankText code = false)
    (position : Location) (name : String) (value : Json) :
    ((Finding.new code position).withData name value).isWellFormed = true := by
  simp [Finding.withData, Finding.new, Finding.isWellFormed, coded]

theorem run_eq_ok {rule : Rule} {node : Node} {options : Json}
    (steady : (rule.check node options).failure = none)
    (coded : ∀ finding ∈ (rule.check node options).findings, finding.isWellFormed = true) :
    rule.run node options = .ok (rule.check node options).findings := by
  have all : (rule.check node options).findings.all Finding.isWellFormed = true :=
    List.all_eq_true.mpr coded
  simp only [run, all, steady, if_true]

theorem Reports.isWellFormed {tag : Tag} {finding : Finding} (reports : Reports tag finding) :
    finding.isWellFormed = true := by
  cases reports with
  | value mem lacks => exact isWellFormed_report (by decide) _ _ _
  | language language coded =>
      rcases coded with rfl | rfl <;> exact isWellFormed_report (by decide) _ _ _
  | casing mismatched => exact isWellFormed_report (by decide) _ _ _

theorem failure_of_mem_builtin {rule : Rule} (builtin : rule ∈ builtin) (node : Node)
    (options : Json) : (rule.check node options).failure = none := by
  rcases mem_builtin_iff.mp builtin with rfl | rfl | rfl
  · cases node <;> rfl
  · simp only [languageStyle, languageStyleWith]
    split
    · rfl
    · split <;> rfl
  · simp only [tagNameMatch]
    split
    · rfl
    · split <;> rfl

/-- No built-in rule fails, at whatever node and with whatever options. -/
theorem run_of_mem_builtin {rule : Rule} (builtin : rule ∈ builtin) (node : Node)
    (options : Json) : rule.run node options = .ok (rule.check node options).findings := by
  apply run_eq_ok (failure_of_mem_builtin builtin node options)
  intro finding mem
  rcases reports_of_mem_builtin builtin mem with ⟨tag, _, reports⟩
  exact reports.isWellFormed

end Rule

/-! ## Linters with the built-in rules -/

namespace Linter

/-- The linter for markup with the built-in rules, set as given, that honours
directives or does not. -/
def ofSettings (settings : NameMap Setting) (inlineConfig : Bool) : Linter :=
  ⟨{ Config.builtin with settings := settings }, markupParser, inlineConfig⟩

/-- The rules that are on if the built-in ones are set as given. -/
def activeOf (settings : NameMap Setting) : List (Rule × Setting) :=
  (ofSettings settings true).config.activeRules

theorem mem_calls_iff {active : List (Rule × Setting)} {forest : List Node} {call : Call} :
    call ∈ calls active forest ↔ call.node ∈ preorder forest ∧
    (call.rule, call.setting) ∈ active := by
  rw [calls, List.mem_flatMap]
  constructor
  · rintro ⟨node, mem, made⟩
    rcases List.mem_map.mp made with ⟨entry, entryMem, rfl⟩
    exact ⟨mem, entryMem⟩
  · rintro ⟨mem, entryMem⟩
    exact ⟨call.node, mem, List.mem_map.mpr ⟨_, entryMem, rfl⟩⟩

theorem mem_builtin_of_mem_calls {settings : NameMap Setting} {forest : List Node} {call : Call}
    (mem : call ∈ calls (activeOf settings) forest) : call.rule ∈ Rule.builtin :=
  (Config.mem_activeRules_iff.mp (mem_calls_iff.mp mem).2).1

/-- The issues of a call of a built-in rule are what the rule finds. -/
theorem issues_of_mem_builtin {call : Call} (mem : call.rule ∈ Rule.builtin) :
    call.issues = (call.rule.check call.node call.setting.options).findings.map call.issue := by
  have ran : call.outcome = .ok _ := Rule.run_of_mem_builtin mem call.node call.setting.options
  simp only [Call.issues, ran]

/-- The linter, reading texts with another parser. -/
def reading (linter : Linter) (parser : Parser) : Linter :=
  { linter with parser := parser }

/-- The issues of a forest if the built-in rules are set as given: those of
all calls that no directive drops. -/
def forestIssues (settings : NameMap Setting) (inlineConfig : Bool) (forest : List Node) :
    List Issue :=
  ((calls (activeOf settings) forest).flatMap Call.issues).filter fun issue =>
    !(ofSettings settings inlineConfig).drops forest issue

/-- Linting with the built-in rules succeeds wherever parsing does. -/
theorem lint_reading (settings : NameMap Setting) (inlineConfig : Bool) {parser : Parser}
    {text : String} {forest : List Node} (parsed : parser text = .ok forest) :
    ((ofSettings settings inlineConfig).reading parser).lint text =
      .ok (forestIssues settings inlineConfig forest) := by
  apply lint_eq_of_parsed parsed
  intro call mem
  exact ⟨_, Rule.run_of_mem_builtin (mem_builtin_of_mem_calls mem) call.node call.setting.options⟩

theorem lint_ofSettings (settings : NameMap Setting) (inlineConfig : Bool) (text : String) :
    (ofSettings settings inlineConfig).lint text =
      .ok (((calls (activeOf settings) (parse text)).flatMap Call.issues).filter fun issue =>
        !(ofSettings settings inlineConfig).drops (parse text) issue) :=
  lint_reading settings inlineConfig rfl

end Linter

end MarkupLint
