import MarkupLint.Proofs.Linter.Builtin
import MarkupLint.Proofs.Text.LoweringTwice
import MarkupLint.Proofs.Text.WhiteSpace

/-!
# Attributes are judged by name

Whether an attribute is reported depends on all attributes of its name, in
whatever case the names are written: one that has a value is enough for all of
them. The rule lowers a name before it is looked up, and looking it up lowers
it again; as lowering twice is lowering once, no script makes a difference.
-/

namespace MarkupLint

open Markup

namespace Markup

/-- The attribute has a value of which trimming leaves something. -/
def Attribute.HasValue (attr : Attribute) : Prop :=
  ∃ value, attr.value = some value ∧ Text.trim value.chars ≠ ""

/-- The attribute has the name, up to case. -/
def Attribute.HasName (attr : Attribute) (name : String) : Prop :=
  Text.lowercase attr.name.chars = Text.lowercase name

/-- The attributes have the same name, up to case. -/
def Attribute.SameName (attr other : Attribute) : Prop :=
  Text.lowercase attr.name.chars = Text.lowercase other.name.chars

instance Attribute.decidableSameName (attr other : Attribute) : Decidable (attr.SameName other) :=
  inferInstanceAs (Decidable (_ = _))

theorem Attribute.isNamed_iff {attr : Attribute} {name : String} :
    attr.isNamed name = true ↔ attr.HasName name :=
  Text.namesMatch_iff

theorem Attribute.isFilled_iff {attr : Attribute} : attr.isFilled = true ↔ attr.HasValue := by
  rw [isFilled, HasValue]
  cases attr.value with
  | none => simp
  | some value => simp [Text.trim_eq_empty_iff]

/-- An attribute is found under the name of another one if and only if both have the same name. -/
theorem Attribute.hasName_lowercase_iff {attr other : Attribute} :
    other.HasName (Text.lowercase attr.name.chars) ↔ other.SameName attr := by
  rw [HasName, Text.lowercase_lowercase, SameName]

theorem Tag.hasFilled_iff {tag : Tag} {name : String} :
    tag.hasFilled name = true ↔ ∃ attr ∈ tag.attributes, attr.HasName name ∧ attr.HasValue := by
  simp only [hasFilled, List.any_eq_true, Bool.and_eq_true, Attribute.isNamed_iff,
    Attribute.isFilled_iff]

theorem Tag.hasFilled_lowercase_iff {tag : Tag} {attr : Attribute} :
    tag.hasFilled (Text.lowercase attr.name.chars) = true ↔
      ∃ other ∈ tag.attributes, other.SameName attr ∧ other.HasValue := by
  simp only [hasFilled_iff, Attribute.hasName_lowercase_iff]

end Markup

namespace Rule

/-- An attribute lacks a value: it does not stand for other content, its name is not that of an
attribute whose presence is enough, and no attribute of its name has a value. -/
structure LacksValue (tag : Tag) (attr : Attribute) : Prop where
  genuine : attr.isPlaceholder = false
  notBoolean : Text.lowercase attr.name.chars ∉ booleanAttributes
  unfilled : ∀ other ∈ tag.attributes, other.SameName attr → ¬ other.HasValue

theorem lacksValue_iff {tag : Tag} {attr : Attribute} :
    lacksValue tag attr = true ↔ LacksValue tag attr := by
  have unfilled : tag.hasFilled (Text.lowercase attr.name.chars) = false ↔
      ∀ other ∈ tag.attributes, other.SameName attr → ¬ other.HasValue := by
    rw [Bool.eq_false_iff, ne_eq, Tag.hasFilled_lowercase_iff]
    simp only [not_exists, not_and]
  simp only [lacksValue, Bool.and_eq_true, Bool.not_eq_true', Bool.or_eq_false_iff, unfilled,
    isBooleanAttribute, Text.lowercase_lowercase, List.contains_eq_mem, decide_eq_false_iff_not]
  constructor
  · rintro ⟨genuine, unfilled, notBoolean⟩
    exact ⟨genuine, notBoolean, unfilled⟩
  · rintro ⟨genuine, notBoolean, unfilled⟩
    exact ⟨genuine, unfilled, notBoolean⟩

instance decidableLacksValue (tag : Tag) (attr : Attribute) : Decidable (LacksValue tag attr) :=
  decidable_of_iff _ lacksValue_iff

/-- The attributes of a tag that lack a value, in order. -/
def unvalued (tag : Tag) : List Attribute :=
  tag.attributes.filter fun attr => decide (LacksValue tag attr)

theorem run_attributeValue (tag : Tag) (children : List Node) (options : Json) :
    attributeValue.run (.element tag children) options =
      .ok ((unvalued tag).map missingValue) := by
  have same : unvalued tag = tag.attributes.filter (lacksValue tag) := by
    apply List.filter_congr
    intro attr _
    rw [Bool.eq_iff_iff, decide_eq_true_iff, lacksValue_iff]
  rw [run_of_mem_builtin (mem_builtin_iff.mpr (Or.inl rfl)), findings_attributeValue, same]
  simp [Node.tag?]

/-- A report shows the name of its attribute in lower case. -/
theorem sameName_of_missingValue {attr other : Attribute}
    (same : missingValue other = missingValue attr) : other.SameName attr := by
  have data := congrArg Finding.data same
  simpa [missingValue, Finding.withData, Finding.new, NameMap.insert,
    Attribute.SameName] using data

/-- What has a value is not reported, nor is anything that would read the same. -/
theorem missingValue_not_mem {tag : Tag} {attr : Attribute} (mem : attr ∈ tag.attributes)
    (filled : attr.HasValue) : missingValue attr ∉ (unvalued tag).map missingValue := by
  intro reported
  rcases List.mem_map.mp reported with ⟨other, kept, same⟩
  have lacks : LacksValue tag other := of_decide_eq_true (List.mem_filter.mp kept).2
  exact lacks.unfilled attr mem (sameName_of_missingValue same).symm filled

/-! ## One more attribute -/

/-- The tag with an attribute between its attributes. -/
def inserted (tag : Tag) (before : List Attribute) (attr : Attribute) (after : List Attribute) :
    Tag :=
  { tag with attributes := before ++ attr :: after }

theorem attributes_inserted (tag : Tag) (before : List Attribute) (attr : Attribute)
    (after : List Attribute) :
    (inserted tag before attr after).attributes = before ++ attr :: after :=
  rfl

theorem mem_inserted_iff {tag : Tag} {before after : List Attribute}
    (attributes : tag.attributes = before ++ after) {attr other : Attribute} :
    other ∈ (inserted tag before attr after).attributes ↔ other = attr ∨
    other ∈ tag.attributes := by
  rw [attributes, attributes_inserted, List.mem_append, List.mem_cons, List.mem_append]
  exact or_left_comm

/-- One more attribute with a value is enough for those of its name, and
changes nothing for others. -/
theorem lacksValue_inserted_iff {tag : Tag} {before after : List Attribute}
    (attributes : tag.attributes = before ++ after) {attr : Attribute} (filled : attr.HasValue)
    {other : Attribute} :
    LacksValue (inserted tag before attr after) other ↔ LacksValue tag other ∧
    ¬ other.SameName attr := by
  constructor
  · intro lacks
    constructor
    · refine ⟨lacks.genuine, lacks.notBoolean, ?_⟩
      intro third mem
      exact lacks.unfilled third ((mem_inserted_iff attributes).mpr (Or.inr mem))
    · intro same
      exact lacks.unfilled attr ((mem_inserted_iff attributes).mpr (Or.inl rfl)) same.symm filled
  · rintro ⟨lacks, different⟩
    refine ⟨lacks.genuine, lacks.notBoolean, ?_⟩
    intro third mem same
    rcases (mem_inserted_iff attributes).mp mem with rfl | old
    · exact absurd same.symm different
    · exact lacks.unfilled third old same

/-- One more attribute with a value takes away the reports of its name and no other. -/
theorem unvalued_inserted {tag : Tag} {before after : List Attribute}
    (attributes : tag.attributes = before ++ after) {attr : Attribute} (filled : attr.HasValue) :
    unvalued (inserted tag before attr after) =
      (unvalued tag).filter fun other => decide (¬ other.SameName attr) := by
  have satisfied : ¬ LacksValue (inserted tag before attr after) attr := by
    rw [lacksValue_inserted_iff attributes filled]
    exact fun lacks => lacks.2 rfl
  have kept : unvalued (inserted tag before attr after) =
      tag.attributes.filter fun other =>
      decide (LacksValue (inserted tag before attr after) other) := by
    rw [unvalued, attributes_inserted, attributes, List.filter_append, List.filter_append,
      List.filter_cons_of_neg (by simpa using satisfied)]
  rw [kept, unvalued, List.filter_filter]
  apply List.filter_congr
  intro other _
  rw [Bool.eq_iff_iff, Bool.and_eq_true, decide_eq_true_iff, decide_eq_true_iff,
    decide_eq_true_iff, lacksValue_inserted_iff attributes filled]
  exact and_comm

/-- The rule reports, in order, the attributes of a tag that lack a value, each once. An attribute
with a value is not among them. One more attribute with a value, wherever it is inserted, takes
away the reports of its name and changes no other. -/
theorem attributes_judged_by_name (tag : Tag) (children : List Node) (options : Json) :
    attributeValue.run (.element tag children) options =
        .ok ((tag.attributes.filter fun attr => decide (LacksValue tag attr)).map missingValue) ∧
      (∀ attr ∈ tag.attributes, attr.HasValue →
        missingValue attr ∉ (attributeValue.check (.element tag children) options).findings) ∧
      ∀ before attr after, tag.attributes = before ++ after → attr.HasValue →
        attributeValue.run
            (.element { tag with attributes := before ++ attr :: after } children) options =
          .ok (((tag.attributes.filter fun other => decide (LacksValue tag other)).filter
            fun other => decide (¬ other.SameName attr)).map missingValue) := by
  refine ⟨run_attributeValue tag children options, ?_, ?_⟩
  · intro attr mem filled
    have ran := run_attributeValue tag children options
    rw [run_of_mem_builtin (mem_builtin_iff.mpr (Or.inl rfl)), Except.ok.injEq] at ran
    rw [ran]
    exact missingValue_not_mem mem filled
  · intro before attr after attributes filled
    have ran := run_attributeValue (inserted tag before attr after) children options
    rwa [unvalued_inserted attributes filled] at ran

/-- Of two attributes without a value, one is named by the Kelvin sign; an
attribute k with a value is put between them. -/
theorem attributes_judged_by_name_kelvin :
    ∃ (tag : Tag) (kelvin other named : Attribute),
      tag.attributes = [kelvin, other] ∧ kelvin.name.chars = "\u212A" ∧ named.name.chars = "k" ∧
      attributeValue.run (.element tag []) .null = .ok [missingValue kelvin, missingValue other] ∧
      attributeValue.run (.element { tag with attributes := [kelvin, named, other] } []) .null =
        .ok [missingValue other] := by
  let token (chars : String) : Token := .new chars ⟨⟨1, 1, 0⟩, ⟨1, 1, 0⟩⟩
  let kelvin : Attribute := .new (token "\u212A") none
  let other : Attribute := .new (token "class") none
  let named : Attribute := .new (token "k") (some (token " x "))
  let tag : Tag := { Tag.new "p" (token "p") with attributes := [kelvin, other] }
  have filled : named.HasValue := ⟨token " x ", rfl, by decide +kernel⟩
  have judged := attributes_judged_by_name tag [] .null
  have both : (tag.attributes.filter fun attr => decide (LacksValue tag attr)) =
      [kelvin, other] := by
    decide +kernel
  have one : ([kelvin, other].filter fun attr => decide (¬ attr.SameName named)) = [other] := by
    decide +kernel
  have before := judged.1
  have after := judged.2.2 [kelvin] named [other] rfl filled
  rw [both] at before after
  rw [one] at after
  exact ⟨tag, kelvin, other, named, rfl, rfl, rfl, before, after⟩

end Rule

end MarkupLint
