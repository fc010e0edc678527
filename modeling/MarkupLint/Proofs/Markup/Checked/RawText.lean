import MarkupLint.Proofs.Markup.Checked.Reading
import MarkupLint.Proofs.Markup.Rereading

/-!
# The search for the end of raw text

The closing tag of a raw text element is searched in a lower-case copy of the
text. Lowering changes letters below 128 only, so offsets in the copy are offsets
in the text. The search jumps over each candidate that is refused: since a
bracket stands nowhere in a closing tag but at its front, no candidate is missed.
-/

namespace MarkupLint.Markup

/-! ## Lower-case copies -/

theorem toLower_eq_self {c : Char} (other : c.isAlpha = false) : c.toLower = c := by
  apply Char.toLower_eq_of_not_isUpper
  intro upper
  rw [Char.isAlpha, upper] at other
  cases other

theorem eq_of_toLower_eq {c d : Char} (same : c.toLower = d) (other : d.isAlpha = false) :
    c = d := by
  rw [← same, Char.isAlpha_toLower_eq_isAlpha] at other
  rw [← same, toLower_eq_self other]

theorem isTagNameChar_toLower (c : Char) : isTagNameChar c.toLower = isTagNameChar c := by
  cases letter : c.isAlpha with
  | true =>
      have lower : c.toLower.isAlpha = true := by rw [Char.isAlpha_toLower_eq_isAlpha, letter]
      rw [isTagNameChar_of_isAlpha letter, isTagNameChar_of_isAlpha lower]
  | false => rw [toLower_eq_self letter]

theorem utf8Size_toLower (c : Char) : c.toLower.utf8Size = c.utf8Size := by
  cases letter : c.isAlpha with
  | true =>
      have lower : c.toLower.isAlpha = true := by rw [Char.isAlpha_toLower_eq_isAlpha, letter]
      rw [Checked.utf8Size_of_lt (Text.toNat_lt_of_isAlpha letter),
        Checked.utf8Size_of_lt (Text.toNat_lt_of_isAlpha lower)]
  | false => rw [toLower_eq_self letter]

theorem byteSize_map_toLower (chars : List Char) :
    byteSize (chars.map Char.toLower) = byteSize chars := by
  induction chars with
  | nil => rfl
  | cons c chars ih => rw [List.map_cons, byteSize_cons, byteSize_cons, utf8Size_toLower, ih]

theorem cutBefore_map (f : Char → Char) (test : List Char → Bool) (chars : List Char) :
    cutBefore test (chars.map f) =
      ((cutBefore (fun chars => test (chars.map f)) chars).1.map f,
        (cutBefore (fun chars => test (chars.map f)) chars).2.map f) := by
  induction chars with
  | nil => rfl
  | cons c chars ih =>
      rw [List.map_cons, cutBefore_cons, cutBefore_cons, ih, List.map_cons]
      split <;> rfl

namespace Slice

/-- The lower-case copy of a slice. -/
def lower (slice : Slice) : Slice :=
  ⟨slice.start, slice.chars.map Char.toLower⟩

@[simp]
theorem start_lower (slice : Slice) : slice.lower.start = slice.start :=
  rfl

theorem Ends.lower {last slice : Slice} (ends : last.Ends slice) :
    last.lower.Ends slice.lower := by
  obtain ⟨before, chars, start⟩ := ends
  refine ⟨before.map Char.toLower, ?_, ?_⟩
  · rw [Slice.lower, Slice.lower, chars, List.map_append]
  · rw [byteSize_map_toLower]
    exact start

theorem cut_lower (test : List Char → Bool) (slice : Slice) :
    (slice.lower.cut test).2 = (slice.cut fun chars => test (chars.map Char.toLower)).2.lower := by
  simp only [cut, lower, cutBefore_map, byteSize_map_toLower]

end Slice

/-! ## Closing tags -/

/-- Raw text ends at a closing tag of its element, written in any case, behind
which the name does not go on. -/
theorem endsRawText_eq_true_iff {name chars : List Char} :
    endsRawText name chars = true ↔
      ∃ opened rest, chars = opened ++ rest ∧ opened.map Char.toLower = '<' :: '/' :: name ∧
        ∀ c ∈ rest.head?, isTagNameChar c = false := by
  constructor
  · intro ends
    unfold endsRawText at ends
    split at ends
    · obtain ⟨written, rest, rfl, lower, stops⟩ := closesName_eq_true_iff.mp ends
      refine ⟨'<' :: '/' :: written, rest, rfl, ?_, stops⟩
      rw [List.map_cons, List.map_cons, lower]
      rfl
    · cases ends
  · rintro ⟨opened, rest, rfl, lower, stops⟩
    obtain ⟨first, others, rfl, firstLower, othersLower⟩ := List.map_eq_cons_iff.mp lower
    obtain ⟨second, written, rfl, secondLower, writtenLower⟩ := List.map_eq_cons_iff.mp othersLower
    obtain rfl := eq_of_toLower_eq firstLower (by decide)
    obtain rfl := eq_of_toLower_eq secondLower (by decide)
    exact closesName_eq_true_iff.mpr ⟨written, rest, rfl, writtenLower, stops⟩

/-- Whether raw text ends at what opens a closing tag is said by the character behind it. -/
theorem endsRawText_append {name opened : List Char}
    (lower : opened.map Char.toLower = '<' :: '/' :: name) (more : List Char) :
    endsRawText name (opened ++ more) = more.head?.all fun c => !isTagNameChar c := by
  rw [Bool.eq_iff_iff, endsRawText_eq_true_iff, Option.all_eq_true]
  constructor
  · rintro ⟨opened', more', same, lower', stops⟩
    have lengths : opened.length = opened'.length := by
      rw [← List.length_map Char.toLower, lower, ← lower', List.length_map]
    obtain ⟨rfl, rfl⟩ := List.append_inj same lengths
    intro c first
    rw [stops c first]
    rfl
  · intro stops
    refine ⟨opened, more, rfl, lower, ?_⟩
    intro c first
    simpa using stops c first

/-- Inside of what opens a closing tag, no other one starts. -/
theorem endsRawText_inside {name opened : List Char} (letters : ∀ c ∈ name, c.isAlpha = true)
    (lower : opened.map Char.toLower = '<' :: '/' :: name) (more : List Char) {place : Nat}
    (positive : 0 < place) (inside : place < opened.length) :
    endsRawText name ((opened ++ more).drop place) = false := by
  rw [← Bool.not_eq_true]
  intro ends
  have starts : ((opened ++ more).drop place).head? = some '<' := by
    unfold endsRawText at ends
    split at ends
    · rename_i front
      rw [front, List.head?_cons]
    · cases ends
  rw [List.head?_drop, List.getElem?_append_left inside] at starts
  have bracket : ('<' :: '/' :: name)[place]? = some '<' := by
    rw [← lower, List.getElem?_map, starts]
    rfl
  obtain ⟨place, rfl⟩ := Nat.exists_eq_succ_of_ne_zero (Nat.ne_of_gt positive)
  have mem : '<' ∈ '/' :: name := List.mem_of_getElem? bracket
  rcases List.mem_cons.mp mem with slash | letter
  · cases slash
  · exact absurd (letters '<' letter) (by decide)

/-- Behind a candidate that is refused, the search may go on. -/
theorem Slice.cut_of_refused {name opened more : List Char}
    (letters : ∀ c ∈ name, c.isAlpha = true) {slice : Slice}
    (front : slice.chars = opened ++ more) (lower : opened.map Char.toLower = '<' :: '/' :: name)
    (refused : endsRawText name (opened ++ more) = false) :
    (slice.cut (endsRawText name)).2 = ((slice.drop opened.length).cut (endsRawText name)).2 := by
  apply cut_drop
  intro place inside
  rw [front]
  cases place with
  | zero => exact refused
  | succ place => exact endsRawText_inside letters lower more (Nat.succ_pos place) inside

namespace Checked

/-- The byte at the start of a slice passes a test, if there is one, as the
first character does. -/
theorem all_peek {text : String} {slice : Slice} (ends : slice.Ends (Slice.ofText text))
    {test : Char → Bool} {value : Bool} (uniform : Uniform test value) :
    (peek text slice.start).all test = slice.chars.head?.all test := by
  rw [peek_eq ends]
  cases slice.chars with
  | nil => rfl
  | cons c rest => exact uniform.front c

/-- In the copy, the byte behind a candidate says whether the text has one there. -/
theorem all_peek_lower {whole slice : Slice} {copy : String}
    (isCopy : Slice.ofText copy = whole.lower) (ends : slice.Ends whole) :
    (peek copy slice.start).all (fun c => !isTagNameChar c) =
      slice.chars.head?.all fun c => !isTagNameChar c := by
  have uniform : Uniform (fun c => !isTagNameChar c) false := by
    intro c large
    simp [uniform_isTagNameChar c large]
  have lowerEnds : slice.lower.Ends (Slice.ofText copy) := by
    rw [isCopy]
    exact ends.lower
  refine (all_peek lowerEnds uniform).trans ?_
  rw [Slice.lower, List.head?_map]
  cases slice.chars.head? with
  | none => rfl
  | some c => simp [isTagNameChar_toLower]

/-- The search finds the end of the raw text, and moves on behind every
candidate that it refuses. -/
theorem closerFrom_eq {name : List Char} (letters : ∀ c ∈ name, c.isAlpha = true)
    {whole slice : Slice} {copy : String} (isCopy : Slice.ofText copy = whole.lower)
    (ends : slice.Ends whole) :
    closerFrom copy ('<' :: '/' :: name) slice.start =
      .ok (if (slice.cut (endsRawText name)).2.chars.isEmpty then none
        else some (slice.cut (endsRawText name)).2.start) := by
  have implies : ∀ chars, endsRawText name chars = true →
      ('<' :: '/' :: name).isPrefixOf (chars.map Char.toLower) = true := by
    intro chars closes
    obtain ⟨opened, rest, rfl, lower, -⟩ := endsRawText_eq_true_iff.mp closes
    rw [List.map_append, lower, List.isPrefixOf_iff_prefix]
    exact List.prefix_append _ _
  induction size : slice.length using Nat.strongRecOn generalizing slice with
  | ind size ih =>
      subst size
      have lowerEnds : slice.lower.Ends (Slice.ofText copy) := by
        rw [isCopy]
        exact ends.lower
      have searched := find_eq lowerEnds ('<' :: '/' :: name)
      rw [Slice.cut_lower, Slice.start_lower] at searched
      have restEnds :=
        (slice.cut_splits fun chars =>
          ('<' :: '/' :: name).isPrefixOf (chars.map Char.toLower)).ends
      rw [closerFrom, searched, Slice.cut_of_imp implies slice]
      generalize found : (slice.cut fun chars =>
        ('<' :: '/' :: name).isPrefixOf (chars.map Char.toLower)).2 = rest at restEnds ⊢
      simp only [bind, Except.bind]
      by_cases done : rest.chars = []
      · rw [Slice.cut_of_nil done, Slice.lower, done]
        rfl
      · -- a candidate: `opened` is what the search looked for, `more` stands behind it
        have candidate : ('<' :: '/' :: name).isPrefixOf (rest.chars.map Char.toLower) = true := by
          subst found
          exact Slice.cut_passes done
        obtain ⟨behind, split⟩ := List.isPrefixOf_iff_prefix.mp candidate
        obtain ⟨opened, more, chars, lower, -⟩ := List.map_eq_append_iff.mp split.symm
        have size : byteSize opened = byteSize ('<' :: '/' :: name) := by
          rw [← lower, byteSize_map_toLower]
        have next : rest.start + byteSize ('<' :: '/' :: name) =
            (rest.drop opened.length).start := by
          rw [Slice.drop, Slice.splitAt, chars, List.take_left, size]
        have nextChars : (rest.drop opened.length).chars = more := by
          rw [Slice.drop, Slice.splitAt, chars, List.drop_left]
        have nextEnds := (Slice.drop_ends opened.length rest).trans restEnds
        have test := all_peek_lower isCopy (nextEnds.trans ends)
        rw [nextChars, ← endsRawText_append lower] at test
        have occupied : rest.lower.chars.isEmpty = false := by
          simpa [Slice.lower, List.isEmpty_eq_false_iff] using done
        simp only [occupied, Bool.false_eq_true, if_false, Slice.start_lower, next]
        by_cases stops : endsRawText name (opened ++ more) = true
        · have unread : rest.chars.isEmpty = false := List.isEmpty_eq_false_iff.mpr done
          rw [if_pos (test.trans stops), Slice.cut_of_stop (chars ▸ stops) done, unread]
          rfl
        · have refused : endsRawText name (opened ++ more) = false := Bool.eq_false_iff.mpr stops
          have forwards : slice.start < (rest.drop opened.length).start := by
            have positive : 0 < byteSize ('<' :: '/' :: name) :=
              byteSize_pos_iff.mpr (List.cons_ne_nil _ _)
            have behind := restEnds.start_le
            omega
          have advances : Advances copy slice.start (rest.drop opened.length).start :=
            advances_of_ends lowerEnds nextEnds.lower forwards
          rw [if_neg (test ▸ stops), dif_pos advances,
            Slice.cut_of_refused letters chars lower refused]
          exact ih _ (nextEnds.length_lt forwards) (nextEnds.trans ends) rfl

end Checked

end MarkupLint.Markup
