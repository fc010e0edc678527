import MarkupLint.Markup.Attributes
import MarkupLint.Proofs.Markup.RawContent
import MarkupLint.Proofs.Markup.Rendering
import MarkupLint.Proofs.Markup.Tiling
import MarkupLint.Proofs.Text.LoweringTwice

/-!
# Attributes in place of blanked-out content

An attribute named by a run of placeholder characters can be inserted anywhere in a tag, and taken
out again, without any other attribute being found differently. For that, no other name may match
a run of placeholder characters: the placeholder character is the lower form of no other one, in
whatever script (`isPlaceholderText_lowercase`).
-/

namespace MarkupLint.Markup

/-! ## Lowering placeholders -/

theorem isPlaceholderText_iff {text : String} :
    isPlaceholderText text = true ↔ text.toList ≠ [] ∧ ∀ c ∈ text.toList, c = placeholderChar := by
  simp [isPlaceholderText]

theorem isLowered_placeholderChar : Text.IsLowered placeholderChar :=
  ⟨by decide, by decide +kernel⟩

/-- No run of the table leads to the placeholder character. -/
theorem caseRuns_avoid_placeholder :
    ∀ run ∈ Text.caseRuns, run.lower + (run.last - run.first) < placeholderChar.toNat ∨
      placeholderChar.toNat < run.lower := by
  decide +kernel

theorem eq_placeholderChar_of_mem_lowerChar {c : Char} (mem : placeholderChar ∈ Text.lowerChar c) :
    c = placeholderChar := by
  unfold Text.lowerChar at mem
  split at mem
  · rename_i ascii
    have small := Text.toNat_toLower_lt ascii
    rw [← List.mem_singleton.mp mem] at small
    exact absurd small (by decide)
  · split at mem
    · exact absurd mem (by decide)
    · split at mem
      · rename_i run found
        have covers := List.find?_some found
        simp only [Text.CaseRun.covers, Bool.and_eq_true, decide_eq_true_eq] at covers
        have avoids := caseRuns_avoid_placeholder run (List.mem_of_find?_eq_some found)
        have same := congrArg Char.toNat (List.mem_singleton.mp mem)
        rcases Text.toNat_ofNat_cases (run.lower + (c.toNat - run.first)) with code | zero
        · omega
        · rw [zero] at same
          exact absurd same (by decide)
      · exact (List.mem_singleton.mp mem).symm

theorem lowerChar_ne_nil (c : Char) : Text.lowerChar c ≠ [] := by
  unfold Text.lowerChar
  split
  · exact List.cons_ne_nil _ _
  · split
    · exact List.cons_ne_nil _ _
    · split <;> exact List.cons_ne_nil _ _

/-- Only placeholder characters are lowered to placeholder characters. -/
theorem eq_placeholderChar_of_lowerAfter {before chars : List Char}
    (lowered : ∀ x ∈ Text.lowerAfter before chars, x = placeholderChar) :
    ∀ c ∈ chars, c = placeholderChar := by
  induction chars generalizing before with
  | nil => exact fun c mem => absurd mem List.not_mem_nil
  | cons c rest ih =>
      rw [Text.lowerAfter] at lowered
      have later := ih fun x mem => lowered x (List.mem_append_right _ mem)
      have first : c = placeholderChar := by
        split at lowered
        · have sigma := lowered (Text.lowerSigma before rest)
            (List.mem_append_left _ (List.mem_singleton_self _))
          unfold Text.lowerSigma at sigma
          split at sigma <;> exact absurd sigma (by decide)
        · rcases List.exists_mem_of_ne_nil _ (lowerChar_ne_nil c) with ⟨x, mem⟩
          have same := lowered x (List.mem_append_left _ mem)
          rw [same] at mem
          exact eq_placeholderChar_of_mem_lowerChar mem
      exact List.forall_mem_cons.mpr ⟨first, later⟩

/-- A text is a run of placeholder characters if and only if its lower form is. -/
theorem isPlaceholderText_lowercase (text : String) :
    isPlaceholderText (Text.lowercase text) = isPlaceholderText text := by
  rw [Bool.eq_iff_iff, isPlaceholderText_iff, isPlaceholderText_iff, Text.lowercase,
    String.toList_ofList]
  constructor
  · rintro ⟨nonempty, lowered⟩
    refine ⟨?_, eq_placeholderChar_of_lowerAfter lowered⟩
    intro empty
    rw [empty] at nonempty
    exact nonempty rfl
  · rintro ⟨nonempty, placeholders⟩
    have same : Text.lowerChars text.toList = text.toList := by
      apply Text.lowerAfter_of_isLowered
      intro c mem
      rw [placeholders c mem]
      exact isLowered_placeholderChar
    rw [same]
    exact ⟨nonempty, placeholders⟩

/-- A run of placeholder characters matches no other name. -/
theorem Attribute.isNamed_of_placeholder {attr : Attribute} {name : String}
    (placeholder : isPlaceholderText attr.name.chars = true)
    (genuine : isPlaceholderText name = false) : attr.isNamed name = false := by
  rw [Bool.eq_false_iff, isNamed, ne_eq, Text.namesMatch_iff]
  intro same
  rw [← isPlaceholderText_lowercase, same, isPlaceholderText_lowercase, genuine] at placeholder
  contradiction

/-! ## Inserting placeholders -/

/-- Attributes named by placeholders are inserted into a list of attributes.
Their values do not matter. -/
inductive Attribute.Padding : List Attribute → List Attribute → Prop where
  | nil : Attribute.Padding [] []
  | keep (attr : Attribute) {attributes padded : List Attribute}
      (rest : Attribute.Padding attributes padded) :
      Attribute.Padding (attr :: attributes) (attr :: padded)
  | insert {attr : Attribute} (built : attr.name.Built)
      (placeholder : isPlaceholderText attr.name.chars = true)
      {attributes padded : List Attribute} (rest : Attribute.Padding attributes padded) :
      Attribute.Padding attributes (attr :: padded)

/-- Attributes named by placeholders are inserted into tags of a forest, which
is the same otherwise. -/
inductive Padding : List Node → List Node → Prop where
  | nil : Padding [] []
  | element {tag : Tag} {attributes : List Attribute} {children inside rest later : List Node}
      (attributesPadded : Attribute.Padding tag.attributes attributes)
      (childrenPadded : Padding children inside) (restPadded : Padding rest later) :
      Padding (.element tag children :: rest)
      (.element { tag with attributes := attributes } inside :: later)
  | leaf {node : Node} (leaf : node.tag? = none) {rest later : List Node}
      (restPadded : Padding rest later) :
      Padding (node :: rest) (node :: later)

section Attributes

variable {attributes padded : List Attribute} (padding : Attribute.Padding attributes padded)

include padding

/-- A search that passes placeholders over finds the same attributes. -/
theorem Attribute.Padding.filter_eq {search : Attribute → Bool}
    (passes : ∀ attr : Attribute, attr.name.Built → isPlaceholderText attr.name.chars = true →
      search attr = false) :
    padded.filter search = attributes.filter search := by
  induction padding with
  | nil => rfl
  | keep attr rest ih => rw [List.filter_cons, List.filter_cons, ih]
  | insert built placeholder rest ih =>
      rw [List.filter_cons_of_neg (by rw [passes _ built placeholder]; exact Bool.false_ne_true),
        ih]

theorem Attribute.Padding.mem {attr : Attribute} (mem : attr ∈ attributes) : attr ∈ padded := by
  induction padding with
  | nil => exact mem
  | keep first rest ih =>
      rcases List.mem_cons.mp mem with rfl | later
      · exact List.mem_cons_self
      · exact List.mem_cons_of_mem _ (ih later)
  | insert built placeholder rest ih => exact List.mem_cons_of_mem _ (ih mem)

end Attributes

section Lookup

variable {tag : Tag} {attributes : List Attribute}
    (padding : Attribute.Padding tag.attributes attributes)
  {name : String} (genuine : isPlaceholderText name = false)

include padding genuine

/-- The attributes of any other name are the same. -/
theorem Tag.named_padded : { tag with attributes := attributes }.named name = tag.named name := by
  apply padding.filter_eq
  intro attr _ placeholder
  exact Attribute.isNamed_of_placeholder placeholder genuine

theorem Tag.hasFilled_padded :
    { tag with attributes := attributes }.hasFilled name = tag.hasFilled name := by
  have found := Tag.named_padded padding genuine
  rw [hasFilled, hasFilled, ← List.any_filter, ← List.any_filter, ← named, ← named, found]

theorem Tag.valueOf?_padded :
    { tag with attributes := attributes }.valueOf? name = tag.valueOf? name := by
  have found := Tag.named_padded padding genuine
  rw [valueOf?, valueOf?, ← List.head?_filter, ← List.head?_filter, ← named, ← named, found]

end Lookup

/-! ## Taking placeholders out -/

/-- The tag without the attributes that are named by placeholders. -/
def Tag.withoutPlaceholders (tag : Tag) : Tag :=
  { tag with attributes := tag.attributes.filter fun attr => !isPlaceholderText attr.name.chars }

mutual

/-- The node with no attributes named by placeholders in it. -/
def Node.withoutPlaceholders : Node → Node
  | .element tag children => .element tag.withoutPlaceholders (withoutPlaceholders children)
  | .text token => .text token
  | .comment token => .comment token
  | .doctype token => .doctype token

/-- The forest with no attributes named by placeholders in it. -/
def withoutPlaceholders : List Node → List Node
  | [] => []
  | node :: nodes => node.withoutPlaceholders :: withoutPlaceholders nodes

end

/-- Every token in the forest is marked as a placeholder exactly if its text is one. -/
def TokensBuilt (forest : List Node) : Prop :=
  ∀ node ∈ preorder forest, ∀ token ∈ node.tokens, token.Built

theorem tokensBuilt_nil : TokensBuilt [] := by
  intro node mem
  exact absurd mem not_mem_preorder_nil

theorem tokensBuilt_cons_iff {node : Node} {rest : List Node} :
    TokensBuilt (node :: rest) ↔
      (∀ token ∈ node.tokens, token.Built) ∧ TokensBuilt node.children ∧ TokensBuilt rest := by
  simp only [TokensBuilt, mem_preorder_cons_iff, or_imp, forall_and, forall_eq]

theorem Attribute.padding_filter {attributes : List Attribute}
    (built : ∀ attr ∈ attributes, attr.name.Built) :
    Attribute.Padding (attributes.filter fun attr => !isPlaceholderText attr.name.chars)
      attributes := by
  induction attributes with
  | nil => exact .nil
  | cons attr attributes ih =>
      rcases List.forall_mem_cons.mp built with ⟨first, others⟩
      by_cases placeholder : isPlaceholderText attr.name.chars = true
      · rw [List.filter_cons_of_neg (by simp [placeholder])]
        exact .insert first placeholder (ih others)
      · rw [List.filter_cons_of_pos (by simp [placeholder])]
        exact .keep attr (ih others)

theorem Tag.name_built {tag : Tag} (built : ∀ token ∈ tag.tokens, token.Built) :
    ∀ attr ∈ tag.attributes, attr.name.Built := by
  intro attr mem
  apply built
  exact List.mem_append_right _ (List.mem_flatMap.mpr ⟨attr, mem, List.mem_cons_self⟩)

/-- Inserting the placeholders again gives the forest back. -/
theorem padding_withoutPlaceholders {forest : List Node} (built : TokensBuilt forest) :
    Padding (withoutPlaceholders forest) forest := by
  induction forest using forest_induction with
  | nil => exact .nil
  | cons first rest ihInside ihLater =>
      rcases tokensBuilt_cons_iff.mp built with ⟨here, inside, later⟩
      cases first with
      | element tag children =>
          exact .element (Attribute.padding_filter (Tag.name_built here)) (ihInside inside)
            (ihLater later)
      | text | comment | doctype => exact .leaf rfl (ihLater later)

/-- Tokens are marked as they should be without placeholders if they are with them. -/
theorem Padding.tokensBuilt {forest padded : List Node} (padding : Padding forest padded)
    (built : TokensBuilt padded) : TokensBuilt forest := by
  induction padding with
  | nil => exact tokensBuilt_nil
  | @element tag attributes children inside rest later attributesPadded childrenPadded restPadded
      ihInside ihLater =>
      rw [tokensBuilt_cons_iff] at built ⊢
      rcases built with ⟨here, within, behind⟩
      refine ⟨?_, ihInside within, ihLater behind⟩
      intro token mem
      apply here
      simp only [Node.tokens, Tag.tokens, List.mem_append, List.mem_flatMap] at mem ⊢
      rcases mem with names | ⟨attr, attrMem, tokenMem⟩
      · exact Or.inl names
      · exact Or.inr ⟨attr, attributesPadded.mem attrMem, tokenMem⟩
  | leaf leaf restPadded ih =>
      rw [tokensBuilt_cons_iff] at built ⊢
      exact ⟨built.1, built.2.1, ih built.2.2⟩

/-! ## Texts -/

/-- All tokens of the forest of a text are marked as they should be. -/
theorem tokensBuilt_parse (text : String) : TokensBuilt (parse text) := by
  rcases parse_laid text with ⟨last, _, laid⟩
  refine laid.forall_preorder (Slice.Ends.refl _) ?_ ?_ ?_
  · intro above slice node rest inText leaf
    rcases leaf.exists_whole with ⟨part, _, _, kind⟩
    rcases kind with rfl | rfl | rfl <;> exact List.forall_mem_singleton.mpr rfl
  · intro content _ _
    exact List.forall_mem_singleton.mpr rfl
  · intro above slice tag children rest inText element token mem
    rcases element.exists_slice inText mem with ⟨part, _, rfl⟩
    rfl

end MarkupLint.Markup
