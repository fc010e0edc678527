import MarkupLint.Proofs.Markup.Layout
import MarkupLint.Proofs.Markup.Rendering

/-!
# Reading what was written

Each reader, put in front of one written piece and some more text, gives back what was written and
leaves the text behind it. What that text may begin with is part of each statement: it must not
carry the piece on. Only characters matter here, not the offsets of the slices.
-/

namespace MarkupLint.Markup

/-! ## Cuts -/

/-- A run of characters that takes in neither blanks nor the mark ends in
front of blanks and the mark. -/
theorem Blanks.stops {blanks : List Char} (blank : Blanks blanks) {keep : Char → Bool}
    {mark : Char} (atBlank : ∀ c, Text.isBlank c = true → keep c = false)
    (atMark : keep mark = false) (tail : List Char) :
    ∀ c ∈ (blanks ++ mark :: tail).head?, keep c = false := by
  cases blanks with
  | nil =>
      rintro _ ⟨rfl⟩
      exact atMark
  | cons d blanks =>
      rintro _ ⟨rfl⟩
      exact atBlank d (blank d List.mem_cons_self)

theorem isTagNameChar_of_isBlank (c : Char) (blank : Text.isBlank c = true) :
    isTagNameChar c = false := by
  simp [isTagNameChar, blank]

theorem isAttributeNameChar_of_isBlank (c : Char) (blank : Text.isBlank c = true) :
    isAttributeNameChar c = false := by
  simp [isAttributeNameChar, blank]

theorem isBareValueChar_of_isBlank (c : Char) (blank : Text.isBlank c = true) :
    isBareValueChar c = false := by
  simp [isBareValueChar, blank]

/-- A cut is made where the test passes first. -/
theorem cutBefore_eq {stop : List Char → Bool} {chars tail : List Char}
    (passed : ∀ before after, chars = before ++ after → after ≠ [] → stop (after ++ tail) = false)
    (stops : tail = [] ∨ stop tail = true) : cutBefore stop (chars ++ tail) = (chars, tail) := by
  induction chars with
  | nil =>
      cases tail with
      | nil => rfl
      | cons c rest =>
          have here : stop (c :: rest) = true := stops.resolve_left (List.cons_ne_nil c rest)
          rw [List.nil_append, cutBefore_cons, if_pos here]
  | cons c chars ih =>
      have goesOn : stop (c :: chars ++ tail) = false :=
        passed [] (c :: chars) rfl (List.cons_ne_nil _ _)
      have later := ih fun before after whole => passed (c :: before) after (by rw [whole]; rfl)
      rw [List.cons_append] at goesOn ⊢
      rw [cutBefore_cons, goesOn, later]
      rfl

namespace Slice

variable {slice : Slice} {chars tail : List Char}

theorem chars_drop (count : Nat) : (slice.drop count).chars = slice.chars.drop count :=
  rfl

theorem cut_chars {test : List Char → Bool} (front : slice.chars = chars ++ tail)
    (passed : ∀ before after, chars = before ++ after → after ≠ [] → test (after ++ tail) = false)
    (stops : tail = [] ∨ test tail = true) :
    (slice.cut test).1.chars = chars ∧ (slice.cut test).2.chars = tail := by
  simp only [cut, front, cutBefore_eq passed stops, and_self]

theorem splitWhile_chars {keep : Char → Bool} (front : slice.chars = chars ++ tail)
    (kept : ∀ c ∈ chars, keep c = true) (stops : ∀ c ∈ tail.head?, keep c = false) :
    (slice.splitWhile keep).1.chars = chars ∧ (slice.splitWhile keep).2.chars = tail := by
  rw [chars_splitWhile_fst, chars_splitWhile_snd, front, List.takeWhile_append_of_pos kept,
    List.dropWhile_append_of_pos kept]
  cases tail with
  | nil => simp
  | cons c rest =>
      have stop := stops c rfl
      simp [stop]

theorem skipBlanks_chars (front : slice.chars = chars ++ tail) (blank : Blanks chars)
    (stops : ∀ c ∈ tail.head?, Text.isBlank c = false) : slice.skipBlanks.chars = tail :=
  (splitWhile_chars front blank stops).2

theorem splitThrough_chars {mark : Char} (front : slice.chars = chars ++ mark :: tail)
    (unmarked : mark ∉ chars) :
    (slice.splitThrough (· == mark)).1.chars = chars ++ [mark] ∧
      (slice.splitThrough (· == mark)).2.chars = tail := by
  have kept : ∀ c ∈ chars, (!(c == mark)) = true := by
    intro c mem
    simpa using fun same : c = mark => unmarked (same ▸ mem)
  obtain ⟨before, rest⟩ := splitWhile_chars front kept (by simp)
  constructor
  · change (slice.splitWhile fun c => !(c == mark)).1.chars ++
      (slice.splitWhile fun c => !(c == mark)).2.chars.take 1 = chars ++ [mark]
    rw [before, rest]
    rfl
  · change (slice.splitWhile fun c => !(c == mark)).2.chars.drop 1 = tail
    rw [rest]
    rfl

/-! ## Leaves -/

/-- A text without brackets is read up to the markup behind it. -/
theorem readText_chars (front : slice.chars = chars ++ tail) (nonempty : chars ≠ [])
    (plain : '<' ∉ chars) (stops : tail = [] ∨ endsText tail = true) :
    slice.readText.1.chars = chars ∧ slice.readText.2.chars = tail := by
  obtain ⟨c, rest, rfl⟩ := List.exists_cons_of_ne_nil nonempty
  have dropped : (slice.drop 1).chars = rest ++ tail := by
    rw [chars_drop, front]
    rfl
  have passed : ∀ before after, rest = before ++ after → after ≠ [] →
      endsText (after ++ tail) = false := by
    intro before after whole some
    obtain ⟨d, more, rfl⟩ := List.exists_cons_of_ne_nil some
    have other : d ≠ '<' := by
      rintro rfl
      exact plain (by simp [whole])
    rw [List.cons_append, endsText.eq_def]
    split
    · rename_i same
      exact absurd (List.cons.inj same).1 other
    · rfl
  obtain ⟨inside, behind⟩ := cut_chars dropped passed stops
  constructor
  · change slice.chars.take 1 ++ ((slice.drop 1).cut endsText).1.chars = c :: rest
    rw [inside, front]
    rfl
  · exact behind

/-- A comment is read to its first closing mark. -/
theorem readComment_chars {body : List Char}
    (front : slice.chars = "<!--".toList ++ body ++ "-->".toList ++ tail)
    (unended : ¬ "-->".toList <:+: body) :
    slice.readComment.1.chars = "<!--".toList ++ body ++ "-->".toList ∧
      slice.readComment.2.chars = tail := by
  have dropped : (slice.drop 4).chars = body ++ '-' :: '-' :: '>' :: tail := by
    rw [chars_drop, front]
    simp
  have passed : ∀ before after, body = before ++ after → after ≠ [] →
      endsComment (after ++ '-' :: '-' :: '>' :: tail) = false := by
    intro before after whole some
    rw [endsComment.eq_def]
    split
    · rename_i rest same
      -- the mark would lie in the body, or overlap with the one behind it
      rcases after with _ | ⟨first, _ | ⟨second, _ | ⟨third, more⟩⟩⟩
      · exact absurd rfl some
      · simp at same
      · simp at same
      · simp only [List.cons_append, List.cons.injEq] at same
        obtain ⟨rfl, rfl, rfl, -⟩ := same
        exact absurd ⟨before, more, by simp [whole]⟩ unended
    · rfl
  obtain ⟨inside, behind⟩ := cut_chars dropped passed (Or.inr rfl)
  constructor
  · change slice.chars.take 4 ++ ((slice.drop 4).cut endsComment).1.chars ++
      ((slice.drop 4).cut endsComment).2.chars.take 3 = _
    rw [inside, behind, front]
    simp
  · change ((slice.drop 4).cut endsComment).2.chars.drop 3 = tail
    rw [behind]
    rfl

/-- A closing tag is read to its bracket. -/
theorem readClosing_chars {name blanks : List Char}
    (front : slice.chars = '<' :: '/' :: (name ++ blanks ++ '>' :: tail))
    (named : ∀ c ∈ name, isTagNameChar c = true) (blank : Blanks blanks) :
    slice.readClosing.2.1.chars = name ∧ slice.readClosing.2.2.chars = tail := by
  have dropped : (slice.drop 2).chars = name ++ (blanks ++ '>' :: tail) := by
    rw [chars_drop, front]
    simp
  obtain ⟨read, rest⟩ :=
    splitWhile_chars dropped named (blank.stops isTagNameChar_of_isBlank rfl tail)
  have unmarked : '>' ∉ blanks := by
    intro mem
    exact absurd (blank _ mem) (by decide)
  exact ⟨read, (splitThrough_chars rest unmarked).2⟩

end Slice

/-! ## Attributes -/

/-- What may stand behind an attribute or the name of a tag: blanks and then no equals sign, and
without blanks only what ends the tag. -/
def StartsBody (chars : List Char) : Prop :=
  ∃ blanks c rest, chars = blanks ++ c :: rest ∧ Blanks blanks ∧ Text.isBlank c = false ∧ c ≠ '=' ∧
    (blanks = [] → c = '>' ∨ c = '/')

theorem StartsBody.append {chars : List Char} (starts : StartsBody chars) (tail : List Char) :
    StartsBody (chars ++ tail) := by
  obtain ⟨blanks, c, rest, rfl, blank, stop, notEquals, ends⟩ := starts
  exact ⟨blanks, c, rest ++ tail, by simp, blank, stop, notEquals, ends⟩

/-- Its first character is a blank, a bracket or a slash. -/
theorem StartsBody.head {chars : List Char} (starts : StartsBody chars) :
    ∃ c rest, chars = c :: rest ∧ (Text.isBlank c = true ∨ c = '>' ∨ c = '/') := by
  obtain ⟨blanks, c, rest, rfl, blank, -, -, ends⟩ := starts
  cases blanks with
  | nil => exact ⟨c, rest, rfl, Or.inr (ends rfl)⟩
  | cons d blanks => exact ⟨d, _, rfl, Or.inl (blank d List.mem_cons_self)⟩

/-- A run of characters ends in front of it that takes in no blanks, no
bracket and, if there is one, no slash. -/
theorem StartsBody.stops {chars : List Char} (starts : StartsBody chars) {keep : Char → Bool}
    (atBlank : ∀ c, Text.isBlank c = true → keep c = false) (atBracket : keep '>' = false)
    (atSlash : chars.head? = some '/' → keep '/' = false) : ∀ c ∈ chars.head?, keep c = false := by
  obtain ⟨c, rest, rfl, kind⟩ := starts.head
  rintro _ ⟨rfl⟩
  rcases kind with blank | rfl | rfl
  · exact atBlank c blank
  · exact atBracket
  · exact atSlash rfl

/-- The name of an attribute starts with no blank and no sign. -/
theorem Attribute.Canonical.exists_name {attr : Attribute} (canonical : attr.Canonical) :
    ∃ c rest, attr.name.chars.toList = c :: rest ∧ isAttributeNameChar c = true := by
  obtain ⟨c, rest, name⟩ := List.exists_cons_of_ne_nil canonical.name_ne_nil
  exact ⟨c, rest, name, canonical.name_chars c (by simp [name])⟩

theorem AttributeWritten.exists_head {attr : Attribute} {bare : Bool} {chars : List Char}
    (written : AttributeWritten attr bare chars) (canonical : attr.Canonical) :
    ∃ c rest, chars = c :: rest ∧ isAttributeNameChar c = true := by
  obtain ⟨c, rest, name, kept⟩ := canonical.exists_name
  cases written with
  | flag => exact ⟨c, rest, name, kept⟩
  | valued => exact ⟨c, _, by simp only [name, List.cons_append]; rfl, kept⟩

theorem BodyWritten.startsBody {attributes : List Attribute} {selfClosing : Bool}
    {chars : List Char} (written : BodyWritten attributes selfClosing chars)
    (canonical : ∀ attr ∈ attributes, attr.Canonical) : StartsBody chars := by
  cases written with
  | ended blank => exact ⟨_, '>', [], rfl, blank, by decide, by decide, fun _ => Or.inl rfl⟩
  | selfClosed blank =>
      exact ⟨_, '/', ['>'], rfl, blank, by decide, by decide, fun _ => Or.inr rfl⟩
  | @attr _ _ _ _ blanks _ more blank separate first _ apart =>
      obtain ⟨c, rest, rfl, kept⟩ := first.exists_head (canonical _ List.mem_cons_self)
      simp only [isAttributeNameChar, Bool.and_eq_true, Bool.not_eq_true', bne_iff_ne] at kept
      obtain ⟨⟨⟨notBlank, notEquals⟩, -⟩, -⟩ := kept
      exact ⟨blanks, c, rest ++ more, by simp, blank, notBlank, notEquals,
        fun none => absurd none separate⟩

/-- A value is not written with a blank in front. -/
theorem ValueWritten.not_isBlank {value chars : List Char} {bare : Bool}
    (written : ValueWritten value bare chars) (tail : List Char) :
    ∀ c ∈ (chars ++ tail).head?, Text.isBlank c = false := by
  cases written with
  | double unquoted =>
      rintro _ ⟨rfl⟩
      decide
  | single unquoted =>
      rintro _ ⟨rfl⟩
      decide
  | bare nonempty plain unquoted =>
      obtain ⟨d, rest, rfl⟩ := List.exists_cons_of_ne_nil nonempty
      rintro _ ⟨rfl⟩
      have kept := plain d List.mem_cons_self
      simp only [isBareValueChar, Bool.and_eq_true, Bool.not_eq_true'] at kept
      exact kept.1

/-- A value is read back from between its quotes, or bare up to what may stand behind it. -/
theorem Slice.readValue_chars {slice : Slice} {value chars tail : List Char} {bare : Bool}
    (written : ValueWritten value bare chars) (front : slice.chars = chars ++ tail)
    (stops : bare = true → ∀ c ∈ tail.head?, isBareValueChar c = false) :
    slice.readValue.1.chars = value ∧ slice.readValue.2.chars = tail := by
  have quoted : ∀ {quote : Char}, quote ∉ value →
      slice.chars = quote :: (value ++ [quote]) ++ tail →
      ((slice.drop 1).splitWhile (· != quote)).1.chars = value ∧
        (((slice.drop 1).splitWhile (· != quote)).2.drop 1).chars = tail := by
    intro quote unquoted front
    have dropped : (slice.drop 1).chars = value ++ quote :: tail := by
      rw [chars_drop, front]
      simp
    have kept : ∀ c ∈ value, (c != quote) = true := by
      intro c mem
      simpa using fun same : c = quote => unquoted (same ▸ mem)
    obtain ⟨read, rest⟩ := splitWhile_chars dropped kept (by simp)
    refine ⟨read, ?_⟩
    rw [chars_drop, rest]
    rfl
  unfold readValue
  cases written with
  | double unquoted =>
      simp only [front, List.cons_append]
      exact quoted unquoted front
  | single unquoted =>
      simp only [front, List.cons_append]
      exact quoted unquoted front
  | bare nonempty plain unquoted =>
      obtain ⟨c, rest, rfl⟩ := List.exists_cons_of_ne_nil nonempty
      have noQuote := unquoted c rfl
      split
      · rename_i same
        exact absurd (List.cons.inj (front.symm.trans same)).1 noQuote.1
      · rename_i same
        exact absurd (List.cons.inj (front.symm.trans same)).1 noQuote.2
      · exact splitWhile_chars front plain (stops rfl)

/-- The characters of the attribute that was read are those of the one that was written. -/
structure AttributeLexeme.Spells (lexeme : AttributeLexeme) (attr : Attribute) : Prop where
  name : lexeme.name.chars = attr.name.chars.toList
  value : lexeme.value.map Slice.chars = attr.value.map fun value => value.chars.toList

theorem Slice.readAttribute_chars {slice : Slice} {attr : Attribute} {bare : Bool}
    {chars tail : List Char} (written : AttributeWritten attr bare chars)
    (canonical : attr.Canonical) (front : slice.chars = chars ++ tail) (starts : StartsBody tail)
    (apart : bare = true → tail.head? ≠ some '/') :
    slice.readAttribute.1.Spells attr ∧ slice.readAttribute.2.chars = tail := by
  unfold readAttribute
  cases written with
  | flag unvalued =>
      obtain ⟨name, rest⟩ := splitWhile_chars front canonical.name_chars
        (starts.stops isAttributeNameChar_of_isBlank rfl fun _ => rfl)
      obtain ⟨blanks, c, more, rfl, blank, stop, notEquals, -⟩ := starts
      have gap := skipBlanks_chars rest blank (by simpa using stop)
      simp only
      split
      · rename_i same
        exact absurd (List.cons.inj (gap.symm.trans same)).1 notEquals
      · exact ⟨⟨name, by rw [unvalued]; rfl⟩, rest⟩
  | @valued value _ before after valueChars valued blanksBefore blanksAfter writtenValue =>
      have split : slice.chars =
          attr.name.chars.toList ++ (before ++ '=' :: (after ++ valueChars ++ tail)) := by
        rw [front]
        simp
      obtain ⟨name, rest⟩ := splitWhile_chars split canonical.name_chars
        (blanksBefore.stops isAttributeNameChar_of_isBlank rfl _)
      have gap := skipBlanks_chars rest blanksBefore (by simp; decide)
      have behind : ((slice.splitWhile isAttributeNameChar).2.skipBlanks.drop 1).chars =
          after ++ (valueChars ++ tail) := by
        rw [chars_drop, gap]
        simp
      have valueFront := skipBlanks_chars behind blanksAfter (writtenValue.not_isBlank tail)
      obtain ⟨read, left⟩ := readValue_chars writtenValue valueFront fun isBare =>
        starts.stops isBareValueChar_of_isBlank rfl fun slash => absurd slash (apart isBare)
      simp only [gap]
      refine ⟨⟨name, ?_⟩, left⟩
      rw [valued, Option.map_some, Option.map_some, read]

/-! ## Opening tags -/

namespace Slice

variable {slice : Slice} {found : List AttributeLexeme}

theorem readAttributes_of_bracket {rest : List Char}
    (front : slice.skipBlanks.chars = '>' :: rest) :
    slice.readAttributes found = ⟨found.reverse, false, slice.skipBlanks.drop 1⟩ := by
  rw [readAttributes.eq_def]
  split
  · rename_i empty
    cases front.symm.trans empty
  · rename_i c more same
    obtain ⟨rfl, rfl⟩ := List.cons.inj (front.symm.trans same)
    rw [if_pos rfl]

theorem readAttributes_of_selfClosing {rest : List Char}
    (front : slice.skipBlanks.chars = '/' :: '>' :: rest) :
    slice.readAttributes found = ⟨found.reverse, true, slice.skipBlanks.drop 2⟩ := by
  rw [readAttributes.eq_def]
  split
  · rename_i empty
    cases front.symm.trans empty
  · rename_i c more same
    obtain ⟨rfl, rfl⟩ := List.cons.inj (front.symm.trans same)
    rfl

theorem readAttributes_of_attribute {c : Char} {rest : List Char}
    (front : slice.skipBlanks.chars = c :: rest) (starts : isAttributeNameChar c = true) :
    slice.readAttributes found =
      slice.skipBlanks.readAttribute.2.readAttributes
        (slice.skipBlanks.readAttribute.1 :: found) := by
  rw [readAttributes.eq_def]
  split
  · rename_i empty
    cases front.symm.trans empty
  · rename_i d more same
    obtain ⟨rfl, rfl⟩ := List.cons.inj (front.symm.trans same)
    simp only [isAttributeNameChar, Bool.and_eq_true, bne_iff_ne] at starts
    rw [if_neg starts.1.2, if_neg starts.2]

end Slice

/-- The attributes of a tag and its end are read back. -/
theorem BodyWritten.read {attributes : List Attribute} {selfClosing : Bool} {chars : List Char}
    (written : BodyWritten attributes selfClosing chars)
    (canonical : ∀ attr ∈ attributes, attr.Canonical) {slice : Slice} {tail : List Char}
    (front : slice.chars = chars ++ tail) (found : List AttributeLexeme) :
    ∃ lexemes rest, slice.readAttributes found = ⟨found.reverse ++ lexemes, selfClosing, rest⟩ ∧
      List.Forall₂ AttributeLexeme.Spells lexemes attributes ∧ rest.chars = tail := by
  induction written generalizing slice found with
  | @ended blanks blank =>
      have split : slice.chars = blanks ++ '>' :: tail := by simp [front]
      have marked := Slice.skipBlanks_chars split blank (by simp; decide)
      refine ⟨[], slice.skipBlanks.drop 1, ?_, .nil, ?_⟩
      · rw [Slice.readAttributes_of_bracket marked, List.append_nil]
      · rw [Slice.chars_drop, marked]
        rfl
  | @selfClosed blanks blank =>
      have split : slice.chars = blanks ++ '/' :: '>' :: tail := by simp [front]
      have marked := Slice.skipBlanks_chars split blank (by simp; decide)
      refine ⟨[], slice.skipBlanks.drop 2, ?_, .nil, ?_⟩
      · rw [Slice.readAttributes_of_selfClosing marked, List.append_nil]
      · rw [Slice.chars_drop, marked]
        rfl
  | @attr attr attributes bare selfClosing blanks chars rest blank separate first more apart ih =>
      have firstCanonical := canonical attr List.mem_cons_self
      have others : ∀ other ∈ attributes, other.Canonical :=
        fun other mem => canonical other (List.mem_cons_of_mem attr mem)
      have starts := more.startsBody others
      have split : slice.chars = blanks ++ (chars ++ (rest ++ tail)) := by simp [front]
      obtain ⟨c, name, head, kept⟩ := first.exists_head firstCanonical
      have notBlank : Text.isBlank c = false := by
        simp only [isAttributeNameChar, Bool.and_eq_true, Bool.not_eq_true'] at kept
        exact kept.1.1.1
      have marked := Slice.skipBlanks_chars split blank (by simpa [head] using notBlank)
      have slashless : bare = true → (rest ++ tail).head? ≠ some '/' := by
        intro isBare
        obtain ⟨d, more, rfl, -⟩ := starts.head
        exact apart isBare
      obtain ⟨spells, left⟩ :=
        Slice.readAttribute_chars first firstCanonical marked (starts.append tail) slashless
      obtain ⟨lexemes, last, read, allSpell, tailChars⟩ :=
        ih others left (slice.skipBlanks.readAttribute.1 :: found)
      refine ⟨slice.skipBlanks.readAttribute.1 :: lexemes, last, ?_, .cons spells allSpell,
        tailChars⟩
      rw [head] at marked
      rw [Slice.readAttributes_of_attribute marked kept, read]
      simp

/-- The characters of the tag that was read are those of the one that was written. -/
structure OpeningLexeme.Spells (lexeme : OpeningLexeme) (tag : Tag) : Prop where
  name : lexeme.name.chars = tag.opening.chars.toList
  attributes : List.Forall₂ AttributeLexeme.Spells lexeme.attributes tag.attributes

theorem OpeningLexeme.Spells.elementName {lexeme : OpeningLexeme} {tag : Tag}
    (spells : lexeme.Spells tag) (canonical : tag.Canonical) : lexeme.elementName = tag.name := by
  rw [OpeningLexeme.elementName, spells.name, String.ofList_toList, canonical.name]

theorem IsTagName.isTagNameChar {chars : List Char} (name : IsTagName chars) :
    ∀ c ∈ chars, isTagNameChar c = true := by
  obtain ⟨letter, rest, rfl, alpha, others⟩ := name
  exact List.forall_mem_cons.mpr ⟨isTagNameChar_of_isAlpha alpha, others⟩

/-- An opening tag is read back, and what it leaves is what stands behind it. -/
theorem Slice.readOpening_chars {slice : Slice} {tag : Tag} {selfClosing : Bool}
    {body tail : List Char} (head : BodyWritten tag.attributes selfClosing body)
    (canonical : tag.Canonical)
    (front : slice.chars = '<' :: (tag.opening.chars.toList ++ body ++ tail)) :
    Lead.of slice.chars = .opening ∧
      ∃ lexeme rest, slice.readOpening = (lexeme, rest) ∧ lexeme.Spells tag ∧
        lexeme.selfClosing = selfClosing ∧ rest.chars = tail := by
  have starts := head.startsBody canonical.attributes
  constructor
  · obtain ⟨letter, rest, name, alpha, -⟩ := canonical.opening_name
    rw [front, name]
    exact Lead.of_opening alpha
  · have dropped : (slice.drop 1).chars = tag.opening.chars.toList ++ (body ++ tail) := by
      rw [chars_drop, front]
      simp
    obtain ⟨name, left⟩ := splitWhile_chars dropped canonical.opening_name.isTagNameChar
      ((starts.append tail).stops isTagNameChar_of_isBlank rfl fun _ => rfl)
    obtain ⟨lexemes, rest, read, spells, tailChars⟩ := head.read canonical.attributes left []
    have whole : slice.readOpening =
        (⟨slice.start, ((slice.drop 1).splitWhile isTagNameChar).1, lexemes, rest.start,
          selfClosing⟩, rest) := by
      simp only [readOpening]
      rw [read]
      rfl
    exact ⟨_, _, whole, ⟨name, spells⟩, rfl, tailChars⟩

/-! ## Raw text -/

/-- A name is closed where it is written, in any case, and followed by nothing
that carries it on. -/
theorem closesName_eq_true_iff {name chars : List Char} :
    closesName name chars = true ↔
      ∃ written rest, chars = written ++ rest ∧ written.map Char.toLower = name ∧
        ∀ c ∈ rest.head?, isTagNameChar c = false := by
  induction name generalizing chars with
  | nil =>
      cases chars with
      | nil => simp [closesName]
      | cons c rest => simp [closesName]
  | cons n name ih =>
      cases chars with
      | nil => simp [closesName]
      | cons c chars =>
          rw [closesName, Bool.and_eq_true, beq_iff_eq, ih]
          constructor
          · rintro ⟨rfl, written, rest, rfl, lower, stops⟩
            exact ⟨c :: written, rest, rfl, by rw [List.map_cons, lower], stops⟩
          · rintro ⟨written, rest, whole, lower, stops⟩
            cases written with
            | nil => cases lower
            | cons d written =>
                obtain ⟨rfl, rfl⟩ := List.cons.inj whole
                obtain ⟨rfl, others⟩ := List.cons.inj lower
                exact ⟨rfl, written, rest, rfl, others, stops⟩

/-- Raw text that nowhere closes its element goes on up to a bracket behind it, also where it ends
with the beginning of a closing tag. -/
theorem endsRawText_eq_false {name content before after tail : List Char}
    (alpha : ∀ c ∈ name, c.isAlpha = true) (unended : NowhereCloses name content)
    (whole : content = before ++ after) (some : after ≠ []) :
    endsRawText name (after ++ '<' :: tail) = false := by
  rw [endsRawText.eq_def]
  split
  · rename_i chars same
    by_contra closes
    obtain ⟨written, rest, split, lower, stops⟩ :=
      closesName_eq_true_iff.mp (Bool.of_not_eq_false closes)
    have noBracket : '<' ∉ written := by
      intro mem
      have lowered : '<' ∈ name := lower ▸ List.mem_map.mpr ⟨'<', mem, rfl⟩
      exact absurd (alpha '<' lowered) (by decide)
    have bracketed : rest ≠ '<' :: tail := by
      rintro rfl
      exact absurd (stops '<' rfl) (by decide)
    rcases after with _ | ⟨first, _ | ⟨second, inner⟩⟩
    · exact some rfl
    · simp at same
    · simp only [List.cons_append, List.cons.injEq] at same
      obtain ⟨rfl, rfl, rfl⟩ := same
      rcases List.append_eq_append_iff.mp split with ⟨more, rfl, left⟩ | ⟨more, rfl, left⟩
      · cases more with
        | nil => exact bracketed left.symm
        | cons c more =>
            obtain ⟨rfl, -⟩ := List.cons.inj left
            exact noBracket (by simp)
      · cases more with
        | nil => exact bracketed left
        | cons c more =>
            have goesOn := unended before written c more whole lower
            exact Bool.noConfusion (goesOn.symm.trans (stops c (by simp [left])))
  · rfl

/-- A closing name for a raw text element has its letters, in any case. -/
theorem map_toLower_of_namesMatch {name : String} (raw : isRawTextElement name = true)
    {close : String} (matching : Text.namesMatch name close = true) :
    close.toList.map Char.toLower = name.toList := by
  obtain ⟨alpha, noK, lower, -⟩ := letters_of_isRawTextElement raw
  have ascii : ∀ c ∈ name.toList, c.toNat < 0x80 := fun c mem =>
    Text.toNat_lt_of_isAlpha (alpha c mem)
  have nameLower : Text.lowerChars name.toList = name.toList := by
    rw [Text.lowerChars, Text.lowerAfter_of_ascii ascii, lower]
  have same : Text.lowerChars close.toList = name.toList := by
    rw [Text.namesMatch, Bool.or_eq_true, beq_iff_eq, beq_iff_eq] at matching
    rcases matching with rfl | lowered
    · exact nameLower
    · rw [← nameLower]
      exact (String.ofList_injective lowered).symm
  exact Text.map_toLower_of_lowerAfter same alpha noK

/-- The content of a raw text element is read back, up to its closing tag. -/
theorem Slice.cutRawText_chars {slice : Slice} {name : String} {content tail : List Char}
    (raw : isRawTextElement name = true) (front : slice.chars = content ++ '<' :: '/' :: tail)
    (unended : NowhereCloses name.toList content) (closes : closesName name.toList tail = true) :
    (slice.cut (endsRawText name.toList)).1.chars = content ∧
      (slice.cut (endsRawText name.toList)).2.chars = '<' :: '/' :: tail := by
  obtain ⟨alpha, -, -, -⟩ := letters_of_isRawTextElement raw
  exact cut_chars front (fun before after => endsRawText_eq_false alpha unended) (Or.inr closes)

end MarkupLint.Markup
