import MarkupLint.Proofs.Markup.Reading

/-!
# Reading at another offset

No reader looks at where a slice starts: what is read of a slice that stands further on is what is
read of it here, as far further on (`scan_shift`).
-/

namespace MarkupLint.Markup

/-- The slice, further on by some bytes. -/
def Slice.shift (distance : Nat) (slice : Slice) : Slice :=
  ⟨slice.start + distance, slice.chars⟩

/-- The attribute, further on. -/
def AttributeLexeme.shift (distance : Nat) (lexeme : AttributeLexeme) : AttributeLexeme :=
  ⟨lexeme.name.shift distance, lexeme.value.map (Slice.shift distance)⟩

/-- The opening tag, further on. -/
def OpeningLexeme.shift (distance : Nat) (lexeme : OpeningLexeme) : OpeningLexeme where
  start := lexeme.start + distance
  name := lexeme.name.shift distance
  attributes := lexeme.attributes.map (AttributeLexeme.shift distance)
  stop := lexeme.stop + distance
  selfClosing := lexeme.selfClosing

/-- The lexeme, further on. -/
def Lexeme.shift (distance : Nat) : Lexeme → Lexeme
  | .text slice => .text (slice.shift distance)
  | .comment slice => .comment (slice.shift distance)
  | .doctype slice => .doctype (slice.shift distance)
  | .opening tag => .opening (tag.shift distance)
  | .closing whole name => .closing (whole.shift distance) (name.shift distance)

/-- What was read of a tag, further on. -/
def TagBody.shift (distance : Nat) (body : TagBody) : TagBody :=
  ⟨body.attributes.map (AttributeLexeme.shift distance), body.selfClosing,
    body.rest.shift distance⟩

namespace Slice

variable (distance : Nat) (slice : Slice)

@[simp]
theorem chars_shift : (slice.shift distance).chars = slice.chars :=
  rfl

@[simp]
theorem start_shift : (slice.shift distance).start = slice.start + distance :=
  rfl

@[simp]
theorem stop_shift : (slice.shift distance).stop = slice.stop + distance := by
  simp only [stop, start_shift, chars_shift]
  omega

/-! ## Splitting -/

theorem cut_shift (test : List Char → Bool) :
    (slice.shift distance).cut test =
      ((slice.cut test).1.shift distance, (slice.cut test).2.shift distance) := by
  simp only [cut, shift, Nat.add_right_comm]

theorem splitAt_shift (count : Nat) :
    (slice.shift distance).splitAt count =
      ((slice.splitAt count).1.shift distance, (slice.splitAt count).2.shift distance) := by
  simp only [splitAt, shift, Nat.add_right_comm]

theorem splitWhile_shift (keep : Char → Bool) :
    (slice.shift distance).splitWhile keep =
      ((slice.splitWhile keep).1.shift distance, (slice.splitWhile keep).2.shift distance) :=
  cut_shift distance slice _

theorem drop_shift (count : Nat) :
    (slice.shift distance).drop count = (slice.drop count).shift distance :=
  congrArg Prod.snd (splitAt_shift distance slice count)

theorem skipBlanks_shift : (slice.shift distance).skipBlanks = slice.skipBlanks.shift distance :=
  congrArg Prod.snd (splitWhile_shift distance slice _)

theorem append_shift (other : Slice) :
    (slice.shift distance).append (other.shift distance) = (slice.append other).shift distance :=
  rfl

theorem splitThrough_shift (test : Char → Bool) :
    (slice.shift distance).splitThrough test =
      ((slice.splitThrough test).1.shift distance,
        (slice.splitThrough test).2.shift distance) := by
  simp only [splitThrough, splitWhile_shift, splitAt_shift, append_shift]

theorem readComment_shift :
    (slice.shift distance).readComment =
      (slice.readComment.1.shift distance, slice.readComment.2.shift distance) := by
  simp only [readComment, splitAt_shift, cut_shift, append_shift]

theorem readText_shift :
    (slice.shift distance).readText = (slice.readText.1.shift distance,
      slice.readText.2.shift distance) := by
  simp only [readText, splitAt_shift, cut_shift, append_shift]

theorem readClosing_shift :
    (slice.shift distance).readClosing =
      (slice.readClosing.1.shift distance, slice.readClosing.2.1.shift distance,
        slice.readClosing.2.2.shift distance) := by
  simp only [readClosing, splitAt_shift, splitWhile_shift, splitThrough_shift, append_shift]

/-! ## Opening tags -/

theorem readValue_shift :
    (slice.shift distance).readValue =
      (slice.readValue.1.shift distance, slice.readValue.2.shift distance) := by
  simp only [readValue, chars_shift, drop_shift, splitWhile_shift]
  split <;> rfl

theorem readAttribute_shift :
    (slice.shift distance).readAttribute =
      (slice.readAttribute.1.shift distance, slice.readAttribute.2.shift distance) := by
  simp only [readAttribute, splitWhile_shift, skipBlanks_shift, chars_shift, drop_shift,
    readValue_shift]
  split <;> rfl

/-- Where a slice ends, the loop over attributes does. -/
theorem readAttributes_of_nil {slice : Slice} (front : slice.skipBlanks.chars = [])
    (found : List AttributeLexeme) :
    slice.readAttributes found = ⟨found.reverse, false, slice.skipBlanks⟩ := by
  rw [readAttributes.eq_def]
  split
  · rfl
  · rename_i same
    cases front.symm.trans same

/-- One round of the loop over attributes, by the first character that is not blank. -/
theorem readAttributes_of_cons {slice : Slice} {c : Char} {rest : List Char}
    (front : slice.skipBlanks.chars = c :: rest) (found : List AttributeLexeme) :
    slice.readAttributes found =
      if c = '>' then ⟨found.reverse, false, slice.skipBlanks.drop 1⟩
      else if c = '/' then
        if rest.head? = some '>' then ⟨found.reverse, true, slice.skipBlanks.drop 2⟩
        else (slice.skipBlanks.drop 1).readAttributes found
      else
        slice.skipBlanks.readAttribute.2.readAttributes
          (slice.skipBlanks.readAttribute.1 :: found) := by
  rw [readAttributes.eq_def]
  split
  · rename_i empty
    cases front.symm.trans empty
  · rename_i same
    rcases List.cons.inj (front.symm.trans same) with ⟨rfl, rfl⟩
    rfl

theorem readAttributes_shift (found : List AttributeLexeme) :
    (slice.shift distance).readAttributes (found.map (AttributeLexeme.shift distance)) =
      (slice.readAttributes found).shift distance := by
  have blanks : ∀ {slice : Slice} {chars : List Char}, slice.skipBlanks.chars = chars →
      (slice.shift distance).skipBlanks.chars = chars := by
    intro slice chars front
    rw [skipBlanks_shift, chars_shift, front]
  fun_induction Slice.readAttributes slice found with
  | case1 slice found front =>
      rw [readAttributes_of_nil (blanks front), skipBlanks_shift]
      simp [TagBody.shift]
  | case2 slice found rest front =>
      rw [readAttributes_of_cons (blanks front), if_pos rfl, skipBlanks_shift, drop_shift]
      simp [TagBody.shift]
  | case3 slice found rest closed front slashed =>
      rw [readAttributes_of_cons (blanks front), if_neg slashed, if_pos rfl, if_pos closed,
        skipBlanks_shift, drop_shift]
      simp [TagBody.shift]
  | case4 slice found rest unclosed front slashed ih =>
      rw [readAttributes_of_cons (blanks front), if_neg slashed, if_pos rfl, if_neg unclosed,
        skipBlanks_shift, drop_shift, ih]
  | case5 slice found c rest front unended unslashed ih =>
      rw [readAttributes_of_cons (blanks front), if_neg unended, if_neg unslashed,
        skipBlanks_shift, readAttribute_shift, ← ih, List.map_cons]

theorem readOpening_shift :
    (slice.shift distance).readOpening =
      (slice.readOpening.1.shift distance, slice.readOpening.2.shift distance) := by
  have body := readAttributes_shift distance ((slice.drop 1).splitWhile isTagNameChar).2 []
  rw [List.map_nil] at body
  simp only [readOpening, drop_shift, splitWhile_shift, body]
  rfl

theorem readRawText_shift (name : String) :
    (slice.shift distance).readRawText name =
      ((slice.readRawText name).1.map (Lexeme.shift distance),
        (slice.readRawText name).2.shift distance) := by
  simp only [readRawText, cut_shift, chars_shift]
  split <;> rfl

theorem next_shift :
    (slice.shift distance).next =
      (slice.next.1.map (Lexeme.shift distance), slice.next.2.shift distance) := by
  have alike : ∀ tag : OpeningLexeme, (tag.shift distance).opensRawText = tag.opensRawText ∧
      (tag.shift distance).elementName = tag.elementName := fun tag => ⟨rfl, rfl⟩
  unfold next
  simp only [chars_shift, readComment_shift, splitThrough_shift, readClosing_shift,
    readOpening_shift, readText_shift, readRawText_shift, alike]
  split
  · rfl
  · rfl
  · rfl
  · split <;> rfl
  · rfl

end Slice

/-- The lexemes of a slice that stands further on are the same, as far further on. -/
theorem scan_shift (distance : Nat) (slice : Slice) :
    scan (slice.shift distance) = (scan slice).map (Lexeme.shift distance) := by
  induction slice using scan_induction with
  | done slice finished =>
      have finishedToo : (slice.shift distance).chars = [] := finished
      rw [scan_of_chars_eq_nil finished, scan_of_chars_eq_nil finishedToo, List.map_nil]
  | step slice unread ih =>
      have unreadToo : (slice.shift distance).chars ≠ [] := unread
      rw [scan_of_chars_ne_nil unread, scan_of_chars_ne_nil unreadToo, Slice.next_shift, ih,
        List.map_append]

end MarkupLint.Markup
