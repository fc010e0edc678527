import MarkupLint.Proofs.Markup.Checked.RawText

/-!
# Reading by byte offsets is safe

Every round of the scanner's main loop starts at a boundary, reads at least one
character, relies on nothing that does not hold, and leaves a builder from which
the same forest comes as from the lexemes that it has read. So the scanner comes to
the end of every text, and what it gives is the forest of the text (`parse_eq_ok`).
-/

namespace MarkupLint.Markup

/-- Closing an element at the end of the text is what finishing does first. -/
theorem Builder.finish_closeInner (builder : Builder) (stop : Position) :
    (builder.closeInner none stop).finish stop = builder.finish stop := by
  obtain ⟨roots, openElements⟩ := builder
  cases openElements with
  | nil => rfl
  | cons inner outer =>
      have length : (closeInner ⟨roots, inner :: outer⟩ none stop).openElements.length =
          outer.length := by
        have names := congrArg List.length (names_closeInner ⟨roots, inner :: outer⟩ none stop)
        simpa [Builder.names] using names
      rw [finish, length]
      rfl

/-- Every step reads at least one byte. -/
theorem Slice.start_lt_next {slice : Slice} (unread : slice.chars ≠ []) :
    slice.start < slice.next.2.start := by
  have shorter := length_next_lt unread
  obtain ⟨before, chars, start⟩ := slice.next_ends
  have nonempty : before ≠ [] := by
    rintro rfl
    rw [length, length, chars, List.nil_append] at shorter
    exact Nat.lt_irrefl _ shorter
  have positive := byteSize_pos_iff.mpr nonempty
  omega

namespace Checked

variable {text : String}

/-! ## What is left to read -/

/-- The forest that comes of a builder that takes all lexemes of a slice. -/
def forestFrom (text : String) (slice : Slice) (builder : Builder) : List Node :=
  (((scan slice).map (Lexeme.place text)).foldl Builder.take builder).finish
    (Position.ofOffset text.toList (Slice.ofText text).stop)

/-- The builder when it has taken some lexemes. -/
def taking (text : String) (builder : Builder) (lexemes : List Lexeme) : Builder :=
  (lexemes.map (Lexeme.place text)).foldl Builder.take builder

theorem forestFrom_next {slice : Slice} (unread : slice.chars ≠ []) (builder : Builder) :
    forestFrom text slice builder =
      forestFrom text slice.next.2 (taking text builder slice.next.1) := by
  rw [forestFrom, scan_of_chars_ne_nil unread, List.map_append, List.foldl_append]
  rfl

/-- The action reads on from `slice`, and leaves a place and a builder from
which the forest comes. -/
def ReadsOn (text : String) (action : Checked (Nat × Builder)) (slice : Slice)
    (forest : List Node) : Prop :=
  ∃ next grown, Succeeds text action (next.start, grown) ∧ next.Ends slice ∧
    forestFrom text next grown = forest

theorem ReadsOn.of_succeeds {action : Checked (Nat × Builder)} {slice : Slice} {builder : Builder}
    (done : Succeeds text action (slice.start, builder)) :
    ReadsOn text action slice (forestFrom text slice builder) :=
  ⟨slice, builder, done, Slice.Ends.refl slice, rfl⟩

theorem Succeeds.readsOn {α : Type} {action : Checked α} {next : α → Checked (Nat × Builder)}
    {middle : α} {slice : Slice} {forest : List Node} (first : Succeeds text action middle)
    (second : ReadsOn text (next middle) slice forest) :
    ReadsOn text (action >>= next) slice forest := by
  obtain ⟨rest, grown, done, ends, same⟩ := second
  exact ⟨rest, grown, first.bind done, ends, same⟩

/-! ## Raw text elements -/

theorem succeeds_pushText {slice content rest : Slice} (ends : slice.Ends (Slice.ofText text))
    (splits : slice.Splits content rest) (builder : Builder) :
    Succeeds text (pushText text slice.start rest.start builder)
      (taking text builder (if content.chars.isEmpty then [] else [.text content])) := by
  have filled_iff : slice.start < rest.start ↔ content.chars ≠ [] := by
    rw [splits.next, Slice.stop, splits.start, ← byteSize_pos_iff]
    omega
  unfold pushText
  split
  · rename_i filled
    rw [List.isEmpty_eq_false_iff.mpr (filled_iff.mp filled)]
    exact (succeeds_token_of_splits ends splits).bind (Succeeds.pure _)
  · rename_i unfilled
    rw [not_not.mp (mt filled_iff.mpr unfilled)]
    exact Succeeds.pure _

/-- What is read of a raw text element: its content, and its closing tag if there is one. -/
theorem readsOn_readRawText {slice : Slice} (ends : slice.Ends (Slice.ofText text)) {name : String}
    (raw : isRawTextElement name = true) (builder : Builder) :
    ReadsOn text (readRawText text name slice.start builder) (slice.readRawText name).2
      (forestFrom text (slice.readRawText name).2
        (taking text builder (slice.readRawText name).1)) := by
  obtain ⟨letters, -, -, -⟩ := letters_of_isRawTextElement raw
  have splits := slice.cut_splits (endsRawText name.toList)
  have restEnds := splits.ends.trans ends
  have isCopy :
      Slice.ofText (String.ofList ((String.ofList slice.chars).toList.map Char.toLower)) =
      Slice.lower ⟨0, slice.chars⟩ := by
    rw [Slice.ofText, String.toList_ofList, String.toList_ofList]
    rfl
  have search := closerFrom_eq letters isCopy (Slice.Ends.refl _)
  have same : ((⟨0, slice.chars⟩ : Slice).cut (endsRawText name.toList)).2.chars =
      (slice.cut (endsRawText name.toList)).2.chars := rfl
  have shifted : slice.start + ((⟨0, slice.chars⟩ : Slice).cut (endsRawText name.toList)).2.start =
      (slice.cut (endsRawText name.toList)).2.start := by
    simp only [Slice.cut, Nat.zero_add]
  refine Succeeds.readsOn (.lift (between_end ends)) (Succeeds.readsOn (.lift search) ?_)
  by_cases done : (slice.cut (endsRawText name.toList)).2.chars = []
  · -- nothing closes the element, so it ends with the text
    have size : text.utf8ByteSize = (slice.cut (endsRawText name.toList)).2.start :=
      (utf8ByteSize_eq_stop restEnds).trans (Slice.start_eq_stop done).symm
    have boundary := restEnds.within.boundary.1
    have stop : (slice.cut (endsRawText name.toList)).2.start = (Slice.ofText text).stop :=
      (Slice.start_eq_stop done).trans restEnds.stop_eq
    simp only [same, done, List.isEmpty_nil, if_true, size]
    refine Succeeds.readsOn (succeeds_pushText ends splits builder) ?_
    refine ⟨(slice.cut (endsRawText name.toList)).2, _,
      (succeeds_closeInner boundary _ none).bind (Succeeds.pure _), Slice.Ends.refl _, ?_⟩
    rw [forestFrom, scan_of_chars_eq_nil done, stop]
    refine (Builder.finish_closeInner _ _).trans ?_
    rw [forestFrom, Slice.readRawText, scan_of_chars_eq_nil done]
    rfl
  · have unread : (slice.cut (endsRawText name.toList)).2.chars.isEmpty = false :=
      List.isEmpty_eq_false_iff.mpr done
    obtain ⟨lead, -⟩ := Slice.closes_of_endsRawText raw (Slice.cut_passes done)
    obtain ⟨c, tail, front, -⟩ := Lead.exists_of_eq_closing lead
    simp only [same, unread, Bool.false_eq_true, if_false, shifted]
    refine Succeeds.readsOn (succeeds_pushText ends splits builder) ?_
    refine ⟨_, _, succeeds_readClosing restEnds front _,
      Slice.Splits.ends (Slice.readClosing_splits _), ?_⟩
    rw [Slice.readRawText]
    refine Eq.trans ?_ (forestFrom_next done _).symm
    simp only [Slice.next, lead]
    rfl

/-! ## Opening tags -/

/-- Up to its end, an opening tag is read with its name, its attributes and its positions. -/
theorem readsOn_readOpening {slice : Slice} (ends : slice.Ends (Slice.ofText text))
    (lead : Lead.of slice.chars = .opening) (builder : Builder) :
    ReadsOn text (readOpening text slice.start builder) slice.next.2
      (forestFrom text slice.next.2 (taking text builder slice.next.1)) := by
  obtain ⟨c, rest, front, letter⟩ := Lead.exists_of_eq_opening lead
  have nameEnds := (Slice.drop_ends 1 slice).trans ends
  have splits := (slice.drop 1).splitWhile_splits isTagNameChar
  have innerEnds := (Slice.readOpening_readFrom lead).ends.trans ends
  have nameStop : runEnd text isTagNameChar (slice.start + 1) =
      ((slice.drop 1).splitWhile isTagNameChar).2.start := by
    rw [start_add_one front]
    exact runEnd_eq nameEnds uniform_isTagNameChar
  unfold readOpening
  simp only [nameStop]
  rw [start_add_one front]
  refine Succeeds.readsOn (succeeds_token_of_splits nameEnds splits) ?_
  refine Succeeds.readsOn (succeeds_readAttributes (splits.ends.trans nameEnds) []) ?_
  refine Succeeds.readsOn (succeeds_positionAt ends.within.boundary.1) ?_
  refine Succeeds.readsOn (succeeds_positionAt innerEnds.within.boundary.1) ?_
  change ReadsOn text
    (if slice.readOpening.1.standsAlone then
      pure (slice.readOpening.2.start, builder.push (.element (slice.readOpening.1.place text) []))
    else if isRawTextElement slice.readOpening.1.elementName then
      readRawText text slice.readOpening.1.elementName slice.readOpening.2.start
        { builder with openElements :=
          ⟨slice.readOpening.1.place text, []⟩ :: builder.openElements }
    else
      pure (slice.readOpening.2.start,
        { builder with openElements :=
          ⟨slice.readOpening.1.place text, []⟩ :: builder.openElements })) _ _
  cases alone : slice.readOpening.1.standsAlone with
  | true =>
      have next : slice.next = ([.opening slice.readOpening.1], slice.readOpening.2) := by
        simp [Slice.next, lead, OpeningLexeme.opensRawText, alone]
      have taken : taking text builder [.opening slice.readOpening.1] =
          builder.push (.element (slice.readOpening.1.place text) []) := by
        simp [taking, Lexeme.place, Builder.take, alone]
      rw [next, if_pos rfl, ← taken]
      exact .of_succeeds (Succeeds.pure _)
  | false =>
      have taken : taking text builder [.opening slice.readOpening.1] =
          { builder with openElements :=
            ⟨slice.readOpening.1.place text, []⟩ :: builder.openElements } := by
        simp [taking, Lexeme.place, Builder.take, alone]
      rw [if_neg Bool.false_ne_true, ← taken]
      cases raw : isRawTextElement slice.readOpening.1.elementName with
      | true =>
          have next : slice.next =
              (.opening slice.readOpening.1 ::
                (slice.readOpening.2.readRawText slice.readOpening.1.elementName).1,
                (slice.readOpening.2.readRawText slice.readOpening.1.elementName).2) := by
            simp [Slice.next, lead, OpeningLexeme.opensRawText, alone, raw]
          rw [next, if_pos rfl]
          exact readsOn_readRawText innerEnds raw _
      | false =>
          have next : slice.next = ([.opening slice.readOpening.1], slice.readOpening.2) := by
            simp [Slice.next, lead, OpeningLexeme.opensRawText, alone, raw]
          rw [next, if_neg Bool.false_ne_true]
          exact .of_succeeds (Succeeds.pure _)

/-! ## Whole texts -/

/-- Behind marks of one byte each, a byte passes a test as the character there does. -/
theorem any_peek_behind {slice : Slice} (ends : slice.Ends (Slice.ofText text))
    (marks : List Char) (size : byteSize marks = marks.length) {test : Char → Bool} {value : Bool}
    (uniform : Uniform test value) :
    (marks.isPrefixOf slice.chars && (peek text (slice.start + marks.length)).any test) =
      (marks.isPrefixOf slice.chars && (slice.chars.drop marks.length).head?.any test) := by
  cases starts : marks.isPrefixOf slice.chars with
  | false => rfl
  | true =>
      obtain ⟨rest, front⟩ := List.isPrefixOf_iff_prefix.mp starts
      have behind : (slice.drop marks.length).start = slice.start + marks.length := by
        rw [Slice.drop, Slice.splitAt, ← front, List.take_left, size]
      rw [Bool.true_and, Bool.true_and, ← behind]
      exact any_peek ((Slice.drop_ends _ slice).trans ends) uniform

/-- One round of the main loop reads what the text begins with. -/
theorem readsOn_step {slice : Slice} (ends : slice.Ends (Slice.ofText text))
    (unread : slice.chars ≠ []) (builder : Builder) :
    ReadsOn text (step text slice.start builder) slice.next.2 (forestFrom text slice builder) := by
  have closing :
      (['<', '/'].isPrefixOf slice.chars && (peek text (slice.start + 2)).any Char.isAlpha) =
      (['<', '/'].isPrefixOf slice.chars && (slice.chars.drop 2).head?.any Char.isAlpha) :=
    any_peek_behind ends ['<', '/'] rfl uniform_isAlpha
  have opening : (['<'].isPrefixOf slice.chars && (peek text (slice.start + 1)).any Char.isAlpha) =
      (['<'].isPrefixOf slice.chars && (slice.chars.drop 1).head?.any Char.isAlpha) :=
    any_peek_behind ends ['<'] rfl uniform_isAlpha
  have lead := Lead.of_eq slice.chars
  rw [forestFrom_next unread]
  refine Succeeds.readsOn (.lift (between_end ends)) ?_
  rw [String.toList_ofList, closing, opening]
  split at lead
  · rename_i comment
    have next : slice.next = ([.comment slice.readComment.1], slice.readComment.2) := by
      simp only [Slice.next, lead]
    rw [if_pos comment, next]
    exact .of_succeeds (succeeds_readComment ends lead builder)
  · rename_i notComment
    rw [if_neg notComment]
    split at lead
    · rename_i doctype
      have next : slice.next =
          ([.doctype (slice.splitThrough (· == '>')).1], (slice.splitThrough (· == '>')).2) := by
        simp only [Slice.next, lead]
      rw [if_pos doctype, next]
      exact .of_succeeds (succeeds_readDoctype ends builder)
    · rename_i notDoctype
      rw [if_neg notDoctype]
      split at lead
      · rename_i closes
        obtain ⟨c, rest, front, -⟩ := Lead.exists_of_eq_closing lead
        have next : slice.next =
            ([.closing slice.readClosing.1 slice.readClosing.2.1], slice.readClosing.2.2) := by
          simp only [Slice.next, lead]
        rw [if_pos closes, next]
        exact .of_succeeds (succeeds_readClosing ends front builder)
      · rename_i notClosing
        rw [if_neg notClosing]
        split at lead
        · rename_i opens
          rw [if_pos opens]
          exact readsOn_readOpening ends lead builder
        · rename_i notOpening
          have next : slice.next = ([.text slice.readText.1], slice.readText.2) := by
            simp only [Slice.next, lead]
          rw [if_neg notOpening, next]
          exact .of_succeeds (succeeds_readText ends unread builder)

/-- From every boundary, the main loop comes to the end of the text. -/
theorem succeeds_build {slice : Slice} (ends : slice.Ends (Slice.ofText text))
    (builder : Builder) :
    Succeeds text (build text slice.start builder) (forestFrom text slice builder) := by
  induction size : slice.length using Nat.strongRecOn generalizing slice builder with
  | ind size ih =>
      subst size
      have stop := utf8ByteSize_eq_stop ends
      by_cases done : slice.chars = []
      · have atEnd : ¬ slice.start < text.utf8ByteSize := by
          rw [stop, ← Slice.start_eq_stop done]
          exact Nat.lt_irrefl _
        have boundary := ends.within.boundary.2
        rw [← stop] at boundary
        rw [build, if_neg atEnd, forestFrom, scan_of_chars_eq_nil done, ← ends.stop_eq, ← stop]
        exact (succeeds_cutOff boundary builder _).bind (Succeeds.pure _)
      · have inside : slice.start < text.utf8ByteSize := by
          rw [stop]
          exact Slice.start_lt_stop done
        obtain ⟨next, grown, read, nextEnds, same⟩ := readsOn_step ends done builder
        have forwards : slice.start < next.start :=
          Nat.lt_of_lt_of_le (Slice.start_lt_next done) nextEnds.start_le
        have outer := nextEnds.trans Slice.next_ends
        rw [build, if_pos inside, ← same]
        refine read.bind ?_
        simp only [dif_pos (advances_of_ends ends outer forwards)]
        exact ih _ (outer.length_lt forwards) (outer.trans ends) grown rfl

/-- Reading by byte offsets comes to the end of every text and gives its forest. So no loop goes
round without having moved on, no part is taken out but between two boundaries in order, the table
of lines has every entry that is asked for, and no column is reduced by more than it is. That the
check on parts lets pass no other offsets is said by the second half. -/
theorem parse_eq_ok (text : String) :
    Checked.parse text = .ok (Markup.parse text) ∧
    ∀ start stop piece, between text start stop = .ok piece ↔
      ∃ part : Slice, part.Within (Slice.ofText text) ∧ part.start = start ∧ part.stop = stop ∧
        String.ofList part.chars = piece := by
  refine ⟨?_, fun _ _ _ => between_eq_ok_iff⟩
  have whole := Slice.Ends.refl (Slice.ofText text)
  obtain ⟨last, done, -⟩ := succeeds_build whole .empty _ (Cursor.sound_ofText text)
  have result : Checked.parse text = .ok (forestFrom text (Slice.ofText text) .empty) := by
    change Prod.fst <$> (build text 0 .empty).run (Cursor.ofText text) = _
    exact congrArg (Prod.fst <$> ·) done
  rw [result, parse_eq_forestOf_place]
  rfl

end Checked

end MarkupLint.Markup
