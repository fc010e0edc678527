import MarkupLint.Proofs.Markup.Rendering
import MarkupLint.Proofs.Markup.Tiling
import MarkupLint.Proofs.Rule.AttributeValue

/-!
# Which language is reported

The rule about the language of a document makes two searches: some attribute `lang` has
to have a value, and the value that is judged is that of the first one. What is reported
is therefore the value of the first one, and no placeholder. It can be blank: if a later
attribute has a value, a blank first one is handed to whatever judges language tags, and
reported if that finds fault with it (`language_reports_first_value`). The standard
judgement accepts blank tags, so with it no blank value is reported.
-/

namespace MarkupLint

open Markup

namespace Markup

/-- The token is the value of the first attribute of the name. -/
def Tag.FirstValue (tag : Tag) (name : String) (value : Token) : Prop :=
  ∃ before attr after, tag.attributes = before ++ attr :: after ∧
    (∀ earlier ∈ before, ¬ earlier.HasName name) ∧
    attr.HasName name ∧ attr.value = some value

theorem Tag.valueOf?_eq_some_iff {tag : Tag} {name : String} {value : Token} :
    tag.valueOf? name = some value ↔ tag.FirstValue name value := by
  simp only [valueOf?, Option.bind_eq_bind, Option.bind_eq_some_iff, List.find?_eq_some_iff_append,
    Attribute.isNamed_iff, Bool.not_eq_true', ← Bool.not_eq_true]
  constructor
  · rintro ⟨attr, ⟨named, before, after, attributes, earlier⟩, written⟩
    exact ⟨before, attr, after, attributes, earlier, named, written⟩
  · rintro ⟨before, attr, after, attributes, earlier, named, written⟩
    exact ⟨attr, ⟨named, before, after, attributes, earlier⟩, written⟩

theorem Tag.FirstValue.unique {tag : Tag} {name : String} {value other : Token}
    (first : tag.FirstValue name value) (otherFirst : tag.FirstValue name other) :
    value = other := by
  rw [← valueOf?_eq_some_iff] at first otherFirst
  exact Option.some.inj (first.symm.trans otherFirst)

theorem Tag.FirstValue.mem_tokens {tag : Tag} {name : String} {value : Token}
    (first : tag.FirstValue name value) : value ∈ tag.tokens := by
  rcases first with ⟨before, attr, after, attributes, _, _, written⟩
  simp [tokens, attributes, Attribute.tokens, written]

end Markup

/-- A blank text is a valid language tag. -/
theorem Language.classify_of_blank {text : String} (blank : Text.trim text = "") :
    classify text = .valid := by
  have empty : Text.trimChars text.toList = [] := by
    rw [Text.trimChars_eq_nil_iff]
    rw [Text.trim_eq_empty_iff, Text.isBlankText, List.all_eq_true] at blank
    exact blank
  rw [classify, empty]
  rfl

namespace Rule

/-- The rule judges the value of the first `lang` attribute of a root element, if some `lang`
attribute has a value and the first one is no placeholder. -/
theorem languageToken?_eq_some_iff {tag : Tag} (built : ∀ token ∈ tag.tokens, token.Built)
    {value : Token} :
    languageToken? tag = some value ↔
      tag.name = "html" ∧ (∃ attr ∈ tag.attributes, attr.HasName "lang" ∧ attr.HasValue) ∧
        tag.FirstValue "lang" value ∧ isPlaceholderText value.chars = false := by
  rw [← Tag.hasFilled_iff, languageToken?]
  by_cases judged : tag.name = "html" ∧ tag.hasFilled "lang" = true
  · have guard : (tag.name == "html" && tag.hasFilled "lang") = true := by simp [judged]
    rw [if_pos guard, Option.filter_eq_some_iff, Tag.valueOf?_eq_some_iff, Bool.not_eq_true']
    constructor
    · rintro ⟨first, genuine⟩
      rw [(built value first.mem_tokens).isPlaceholder_eq] at genuine
      exact ⟨judged.1, judged.2, first, genuine⟩
    · rintro ⟨_, _, first, genuine⟩
      rw [(built value first.mem_tokens).isPlaceholder_eq]
      exact ⟨first, genuine⟩
  · have guard : ¬ (tag.name == "html" && tag.hasFilled "lang") = true := by simpa using judged
    rw [if_neg guard]
    constructor
    · intro found
      contradiction
    · rintro ⟨name, filled, _⟩
      exact absurd ⟨name, filled⟩ judged

theorem run_languageStyleWith (classify : Language.Classifier) (tag : Tag) (children : List Node)
    (options : Json) :
    (languageStyleWith classify).run (.element tag children) options =
      .ok ((languageToken? tag).bind fun value =>
        (verdictCode? options (classify value.chars)).map fun code =>
            languageReport code value).toList := by
  have findings := findings_languageStyleWith classify (.element tag children) options
  rw [run_eq_ok, findings]
  · rfl
  · simp only [languageStyleWith]
    split
    · rfl
    · split <;> rfl
  · intro finding mem
    rcases reports_of_mem_languageStyleWith mem with ⟨reported, _, reports⟩
    exact reports.isWellFormed

/-- A report tells of a value: it stands at its place and holds its text. -/
structure TellsOf (finding : Finding) (value : Token) : Prop where
  position : finding.position = value.loc
  data : finding.data = some [("lang", .string value.chars)]

theorem mem_reports_iff {classify : Language.Classifier} {options : Json} {tag : Tag}
    {finding : Finding} :
    finding ∈ ((languageToken? tag).bind fun value =>
        (verdictCode? options (classify value.chars)).map fun code =>
          languageReport code value).toList ↔
      ∃ value code, languageToken? tag = some value ∧
        verdictCode? options (classify value.chars) = some code ∧
        finding = languageReport code value := by
  simp only [Option.mem_toList, Option.bind_eq_some_iff, Option.map_eq_some_iff]
  constructor
  · rintro ⟨value, found, code, coded, rfl⟩
    exact ⟨value, code, found, coded, rfl⟩
  · rintro ⟨value, code, found, coded, rfl⟩
    exact ⟨value, found, code, coded, rfl⟩

/-- The rule reports the value of the first `lang` attribute, at its place, and
never a placeholder. It does so exactly if some `lang` attribute of the root
element has a value and the judgement finds fault with the first one, be that
blank or not. So no blank value is reported where blank texts are valid. -/
theorem language_reports_first_value (classify : Language.Classifier) (options : Json) {tag : Tag}
    (children : List Node) (built : ∀ token ∈ tag.tokens, token.Built) :
    ∃ findings, (languageStyleWith classify).run (.element tag children) options = .ok findings ∧
      (∀ finding ∈ findings, ∃ value, tag.FirstValue "lang" value ∧ TellsOf finding value ∧
        isPlaceholderText value.chars = false ∧
        ((∀ text, Text.trim text = "" → classify text = .valid) → Text.trim value.chars ≠ "")) ∧
      ∀ value, tag.FirstValue "lang" value →
        ((∃ finding, finding ∈ findings) ↔ tag.name = "html" ∧
          (∃ attr ∈ tag.attributes, attr.HasName "lang" ∧ attr.HasValue) ∧
          isPlaceholderText value.chars = false ∧
          (verdictCode? options (classify value.chars)).isSome = true) := by
  refine ⟨_, run_languageStyleWith classify tag children options, ?_, ?_⟩
  · intro finding mem
    rcases mem_reports_iff.mp mem with ⟨value, code, found, coded, rfl⟩
    rcases (languageToken?_eq_some_iff built).mp found with ⟨_, _, first, genuine⟩
    refine ⟨value, first, ⟨rfl, rfl⟩, genuine, ?_⟩
    intro accepts blank
    rw [accepts value.chars blank] at coded
    contradiction
  · intro value first
    constructor
    · rintro ⟨finding, mem⟩
      rcases mem_reports_iff.mp mem with ⟨judged, code, found, coded, _⟩
      rcases (languageToken?_eq_some_iff built).mp found with ⟨name, filled, judgedFirst, genuine⟩
      obtain rfl := judgedFirst.unique first
      exact ⟨name, filled, genuine, by rw [coded, Option.isSome_some]⟩
    · rintro ⟨name, filled, genuine, faulty⟩
      rcases Option.isSome_iff_exists.mp faulty with ⟨code, coded⟩
      have found := (languageToken?_eq_some_iff built).mpr ⟨name, filled, first, genuine⟩
      exact ⟨_, mem_reports_iff.mpr ⟨value, code, found, coded, rfl⟩⟩

/-- A root element with two `lang` attributes, the first one of which is written in capitals. -/
def twiceNamed (first second : String) : Tag :=
  let token (chars : String) : Token := .new chars ⟨⟨1, 1, 0⟩, ⟨1, 1, 0⟩⟩
  { Tag.new "html" (token "html") with
    attributes :=
    [.new (token "LANG") (some (token first)), .new (token "lang") (some (token second))] }

theorem built_twiceNamed (first second : String) :
    ∀ token ∈ (twiceNamed first second).tokens, token.Built := by
  simp [twiceNamed, Tag.tokens, Tag.new, Attribute.tokens, Attribute.new, Token.Built, Token.new]

theorem firstValue_twiceNamed (first second : String) :
    (twiceNamed first second).FirstValue "lang" (.new first ⟨⟨1, 1, 0⟩, ⟨1, 1, 0⟩⟩) := by
  have named : Text.lowercase "LANG" = Text.lowercase "lang" := by decide +kernel
  exact ⟨[], _, _, rfl, fun earlier mem => absurd mem List.not_mem_nil, named, rfl⟩

/-- Of an unknown language and a known one behind it, the unknown one is reported. -/
theorem language_reports_first_value_unknown :
    ∃ findings, languageStyle.run (.element (twiceNamed "xx-YY" "en") [])
    (.bool true) = .ok findings ∧
      ∃ finding ∈ findings, ∃ value, finding.data = some [("lang", .string value)] ∧
        value = "xx-YY" ∧
        Text.trim value ≠ "" := by
  have reports := language_reports_first_value Language.classify (.bool true) []
    (built_twiceNamed "xx-YY" "en")
  rcases reports with ⟨findings, ran, told, exactly⟩
  have first := firstValue_twiceNamed "xx-YY" "en"
  have filled : ∃ attr ∈ (twiceNamed "xx-YY" "en").attributes, attr.HasName "lang" ∧
      attr.HasValue := by
    rw [← Tag.hasFilled_iff]
    decide +kernel
  rcases (exactly _ first).mpr ⟨rfl, filled, by decide +kernel, by decide +kernel⟩ with
    ⟨finding, mem⟩
  rcases told finding mem with ⟨value, valueFirst, tells, _, solid⟩
  obtain rfl := valueFirst.unique first
  exact ⟨findings, ran, finding, mem, _, tells.data, rfl, solid fun _ =>
    Language.classify_of_blank⟩

/-- With a judgement of its own, the rule can report a blank value: here the
empty one in front of another. -/
theorem language_report_can_be_blank :
    ¬ ∀ (classify : Language.Classifier) (options : Json) (tag : Tag) (children : List Node),
      (∀ token ∈ tag.tokens, token.Built) →
      ∀ finding ∈ ((languageStyleWith classify).check (.element tag children) options).findings,
        ∃ value, tag.FirstValue "lang" value ∧ TellsOf finding value ∧
          Text.trim value.chars ≠ "" := by
  intro filled
  have found :
      ((languageStyleWith fun _ => .invalidSubtag).check (.element (twiceNamed "" "en") [])
      (.bool true)).findings = [languageReport "E038" (.new "" ⟨⟨1, 1, 0⟩, ⟨1, 1, 0⟩⟩)] := by
    have judged : languageToken? (twiceNamed "" "en") = some (.new "" ⟨⟨1, 1, 0⟩, ⟨1, 1, 0⟩⟩) := by
      decide +kernel
    rw [findings_languageStyleWith]
    simp only [Node.tag?, Option.bind_some, judged]
    rfl
  rcases filled (fun _ => .invalidSubtag) (.bool true) (twiceNamed "" "en") []
    (built_twiceNamed "" "en") _
    (by rw [found]; exact List.mem_singleton_self _) with ⟨value, first, _, solid⟩
  rw [first.unique (firstValue_twiceNamed "" "en")] at solid
  exact solid (by decide +kernel)

end Rule

end MarkupLint
