import MarkupLint.Proofs.Linter.Builtin
import MarkupLint.Proofs.Linter.Suppression
import MarkupLint.Proofs.Markup.Placeholders

/-!
# Linting does not see placeholders

Attributes named by placeholders make no difference to the built-in rules: neither
are they reported, nor do they change what is reported of other attributes. The
rules look attributes up by name, and no other name matches that of a placeholder.
So the issues of a forest stay the same, each of them and their order, whether
such attributes are taken out or inserted (`lint_ignores_placeholders`).
-/

namespace MarkupLint

open Markup

/-! ## Nodes alike -/

/-- A linter with the built-in rules cannot tell the nodes apart. -/
structure Markup.Node.Alike (node other : Node) : Prop where
  findings : ∀ rule ∈ Rule.builtin, ∀ options : Json,
    (rule.check other options).findings = (rule.check node options).findings
  silences : ∀ issue : Issue, other.silences issue = node.silences issue

namespace Linter

/-- Linting goes through nodes that are alike with the same issues. -/
theorem issues_of_alike (settings : NameMap Setting) {forest other : List Node}
    (alike : List.Forall₂ Node.Alike (preorder forest) (preorder other)) :
    (calls (activeOf settings) other).flatMap Call.issues =
      (calls (activeOf settings) forest).flatMap Call.issues := by
  have builtin : ∀ entry ∈ activeOf settings, entry.1 ∈ Rule.builtin := by
    intro entry mem
    exact (Config.mem_activeRules_iff.mp mem).1
  rw [calls, calls, List.flatMap_assoc, List.flatMap_assoc]
  generalize preorder forest = nodes, preorder other = others at alike ⊢
  induction alike with
  | nil => rfl
  | @cons node node' nodes nodes' here later ih =>
      rw [List.flatMap_cons, List.flatMap_cons, ih, List.flatMap_map, List.flatMap_map]
      congr 1
      apply List.flatMap_congr
      intro entry mem
      rw [issues_of_mem_builtin (builtin entry mem), issues_of_mem_builtin (builtin entry mem)]
      simp only [here.findings entry.1 (builtin entry mem)]
      rfl

theorem drops_of_alike (linter : Linter) {forest other : List Node}
    (alike : List.Forall₂ Node.Alike (preorder forest) (preorder other)) :
    linter.drops other = linter.drops forest := by
  funext issue
  rw [drops, drops, Suppressions.suppresses_ofForest, Suppressions.suppresses_ofForest]
  congr 1
  generalize preorder forest = nodes, preorder other = others at alike ⊢
  induction alike with
  | nil => rfl
  | cons here later ih => rw [List.any_cons, List.any_cons, here.silences, ih]

end Linter

/-! ## The rules -/

namespace Rule

section Padded

variable {tag : Tag} {attributes : List Attribute}
    (padding : Attribute.Padding tag.attributes attributes)

include padding

/-- Of an attribute that was there before, the same is said. Another placeholder may now share its
name, but then it is a placeholder itself. -/
theorem lacksValue_padded {attr : Attribute} (built : attr.name.Built) :
    lacksValue { tag with attributes := attributes } attr = lacksValue tag attr := by
  unfold lacksValue
  cases genuine : attr.isPlaceholder with
  | true => rfl
  | false =>
      rw [Attribute.isPlaceholder, built.isPlaceholder_eq,
        ← isPlaceholderText_lowercase] at genuine
      simp only [Tag.hasFilled_padded padding genuine]

theorem filter_lacksValue_padded (built : ∀ attr ∈ tag.attributes, attr.name.Built) :
    attributes.filter (lacksValue { tag with attributes := attributes }) =
      tag.attributes.filter (lacksValue tag) := by
  rw [padding.filter_eq]
  · apply List.filter_congr
    intro attr mem
    exact lacksValue_padded padding (built attr mem)
  · intro attr built placeholder
    rw [← built.isPlaceholder_eq] at placeholder
    simp [lacksValue, Attribute.isPlaceholder, placeholder]

theorem languageToken?_padded :
    languageToken? { tag with attributes := attributes } = languageToken? tag := by
  have genuine : isPlaceholderText "lang" = false := by decide
  simp only [languageToken?, Tag.hasFilled_padded padding genuine,
    Tag.valueOf?_padded padding genuine]

/-- What a built-in rule finds at an element does not depend on placeholders. -/
theorem findings_padded {rule : Rule} (builtin : rule ∈ builtin)
    (built : ∀ attr ∈ tag.attributes, attr.name.Built) (children inside : List Node)
    (options : Json) :
    (rule.check (.element { tag with attributes := attributes } inside) options).findings =
      (rule.check (.element tag children) options).findings := by
  rcases mem_builtin_iff.mp builtin with rfl | rfl | rfl
  · simp only [findings_attributeValue, Node.tag?, Option.toList_some, List.flatMap_singleton,
      filter_lacksValue_padded padding built]
  · simp only [languageStyle, findings_languageStyleWith, Node.tag?, Option.bind_some,
      languageToken?_padded padding]
  · rw [findings_tagNameMatch, findings_tagNameMatch]
    rfl

end Padded

end Rule

/-! ## Forests -/

theorem Markup.Node.preorder_of_leaf {node : Node} (leaf : node.tag? = none) :
    node.preorder = [node] := by
  cases node with
  | element => contradiction
  | text | comment | doctype => rfl

/-- The nodes of a forest are alike with and without placeholders. -/
theorem Markup.Padding.alike {forest padded : List Node} (padding : Padding forest padded)
    (built : TokensBuilt forest) :
    List.Forall₂ Node.Alike (preorder forest) (preorder padded) := by
  induction padding with
  | nil => exact .nil
  | @element tag attributes children inside rest later attributesPadded _ _ ihInside ihLater =>
      rcases tokensBuilt_cons_iff.mp built with ⟨here, within, behind⟩
      simp only [preorder, Node.preorder, List.cons_append]
      refine .cons ⟨?_, fun _ => rfl⟩ (List.rel_append (ihInside within) (ihLater behind))
      intro rule builtin options
      exact Rule.findings_padded attributesPadded builtin (Tag.name_built here) children
        inside options
  | @leaf node leaf rest later _ ih =>
      rcases tokensBuilt_cons_iff.mp built with ⟨_, _, behind⟩
      rw [preorder, preorder, Node.preorder_of_leaf leaf]
      exact .cons ⟨fun _ _ _ => rfl, fun _ => rfl⟩ (ih behind)

namespace Linter

/-- Inserting placeholders leaves all issues as they are. -/
theorem forestIssues_of_padding {forest padded : List Node} (padding : Padding forest padded)
    (built : TokensBuilt forest) (settings : NameMap Setting) (inlineConfig : Bool) :
    forestIssues settings inlineConfig padded = forestIssues settings inlineConfig forest := by
  have alike := padding.alike built
  rw [forestIssues, forestIssues, issues_of_alike settings alike, drops_of_alike _ alike]

/-- Texts are read with tokens marked as they should be. Wherever they are, linting
a forest with the built-in rules, whatever they are set to and whether directives
are honoured or not, gives the same issues as linting it without the attributes
that are named by placeholders, or with any more of them inserted anywhere. -/
theorem lint_ignores_placeholders :
    (∀ text, TokensBuilt (parse text)) ∧
    ∀ (settings : NameMap Setting) (inlineConfig : Bool) (forest : List Node), TokensBuilt forest →
      ∃ issues, ∀ variant, variant = forest ∨ variant = withoutPlaceholders forest ∨
      Padding forest variant →
        ∀ (parser : Parser) (text : String), parser text = .ok variant →
          ((ofSettings settings inlineConfig).reading parser).lint text = .ok issues := by
  refine ⟨tokensBuilt_parse, ?_⟩
  intro settings inlineConfig forest built
  refine ⟨forestIssues settings inlineConfig forest, ?_⟩
  intro variant differs parser text parsed
  rw [lint_reading settings inlineConfig parsed]
  apply congrArg
  rcases differs with rfl | rfl | padding
  · rfl
  · have padding := padding_withoutPlaceholders built
    exact (forestIssues_of_padding padding (padding.tokensBuilt built) settings inlineConfig).symm
  · exact forestIssues_of_padding padding built settings inlineConfig

/-- An attribute at the beginning of a text. -/
def attributeAt (name value : String) : Attribute :=
  .new (.anywhere name) (some (.anywhere value))

/-- A root element with some attributes. -/
def rootWith (attributes : List Attribute) : List Node :=
  [.element { Tag.new "html" (.anywhere "html") with attributes := attributes } []]

/-- The unknown language is reported whether or not placeholders stand around it. -/
theorem lint_ignores_placeholders_around_language :
    ∃ issues, issues.length = 1 ∧ ∀ attributes ∈ [
        [attributeAt "¤¤" "en", attributeAt "lang" "xx"],
        [attributeAt "lang" "xx"],
        [attributeAt "¤" "", attributeAt "¤¤" "en", attributeAt "lang" "xx", attributeAt "¤" ""]],
      ((ofSettings strict.config.settings true).reading
        fun _ => .ok (rootWith attributes)).lint "" = .ok issues := by
  have built : TokensBuilt (rootWith [attributeAt "¤¤" "en", attributeAt "lang" "xx"]) := by
    rw [rootWith, tokensBuilt_cons_iff]
    refine ⟨?_, tokensBuilt_nil, tokensBuilt_nil⟩
    simp [Node.tokens, Tag.tokens, Tag.new, Attribute.tokens, attributeAt, Attribute.new,
      Token.Built, Token.anywhere, Token.new]
  have marked : (attributeAt "¤" "").name.Built := rfl
  have named : isPlaceholderText (attributeAt "¤" "").name.chars = true := by decide
  have padding : Padding (rootWith [attributeAt "¤¤" "en", attributeAt "lang" "xx"])
      (rootWith [attributeAt "¤" "", attributeAt "¤¤" "en", attributeAt "lang" "xx",
        attributeAt "¤" ""]) :=
    .element (.insert marked named (.keep _ (.keep _ (.insert marked named .nil)))) .nil .nil
  rcases lint_ignores_placeholders.2 strict.config.settings true _ built with ⟨issues, same⟩
  have linted := same _ (Or.inl rfl) (fun _ => .ok _) "" rfl
  have counted : (((ofSettings strict.config.settings true).reading fun _ =>
      .ok (rootWith [attributeAt "¤¤" "en", attributeAt "lang" "xx"])).lint "").toOption.map
          List.length = some 1 := by
    decide +kernel
  rw [linted] at counted
  refine ⟨issues, Option.some.inj counted, ?_⟩
  simp only [List.forall_mem_cons]
  refine ⟨linted, ?_, same _ (Or.inr (Or.inr padding)) _ "" rfl, fun _ mem =>
    absurd mem List.not_mem_nil⟩
  exact same _ (Or.inr (Or.inl rfl)) _ "" rfl

end Linter

end MarkupLint
