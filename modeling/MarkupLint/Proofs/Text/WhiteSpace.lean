import Mathlib.Data.List.DropRight
import MarkupLint.Text.WhiteSpace
import MarkupLint.Text.WordCharacter

/-!
# White space at the ends of a text

What trimming leaves of a text that is put together from parts: white space at
its ends is dropped, and a part that ends in another character is kept as it
is. No character of a word is white space.
-/

namespace MarkupLint.Text

/-! ## Words -/

theorem wordRanges_avoid_whiteSpace :
    (wordRanges.all fun range => whiteSpaceRanges.all fun blank =>
      Nat.blt range.2 blank.1 || Nat.blt blank.2 range.1) = true := by
  decide +kernel

/-- Within ASCII, white space is the space or stands before it. -/
theorem whiteSpaceRanges_ascii : ∀ range ∈ whiteSpaceRanges, range.2 < 33 ∨ 0x80 ≤ range.1 := by
  decide

/-- No word has the space in it, or a character that stands before the space. -/
theorem not_isWord_below : ((List.range 33).all fun code => !isWord (Char.ofNat code)) = true := by
  decide +kernel

/-- A character of a word is not white space. -/
theorem isWhiteSpace_of_isWord {c : Char} (word : isWord c = true) : isWhiteSpace c = false := by
  apply Bool.eq_false_iff.mpr
  intro blank
  rcases (CodeRanges.contains_iff _ _).mp blank with ⟨range, mem, first, last⟩
  by_cases ascii : c.toNat < 0x80
  · have below : c.toNat < 33 := by
      have split := whiteSpaceRanges_ascii range mem
      omega
    have apart := List.all_eq_true.mp not_isWord_below c.toNat (List.mem_range.mpr below)
    rw [Char.ofNat_toNat, word] at apart
    contradiction
  · rw [isWord, if_neg ascii] at word
    rcases (CodeRanges.contains_iff _ _).mp word with ⟨other, otherMem, otherFirst, otherLast⟩
    have apart := List.all_eq_true.mp
      (List.all_eq_true.mp wordRanges_avoid_whiteSpace other otherMem) range mem
    rw [Bool.or_eq_true, Nat.blt_eq, Nat.blt_eq] at apart
    omega

/-! ## Trimming -/

theorem trimEnd_eq_rdropWhile (chars : List Char) :
    trimEnd chars = chars.rdropWhile isWhiteSpace :=
  rfl

/-- White space at the end is dropped. -/
theorem trimEnd_append_of_blank (chars : List Char) {blanks : List Char}
    (blank : ∀ c ∈ blanks, isWhiteSpace c = true) : trimEnd (chars ++ blanks) = trimEnd chars := by
  have reversed : ∀ c ∈ blanks.reverse, isWhiteSpace c = true := by
    intro c mem
    exact blank c (List.mem_reverse.mp mem)
  rw [trimEnd, List.reverse_append, List.dropWhile_append_of_pos reversed, trimEnd]

/-- A part that ends in another character than white space is kept. -/
theorem trimEnd_append_of_solid (chars rest : List Char) {last : Char}
    (solid : isWhiteSpace last = false) :
    trimEnd (chars ++ [last] ++ rest) = chars ++ [last] ++ trimEnd rest := by
  have kept : (last :: chars.reverse).dropWhile isWhiteSpace = last :: chars.reverse :=
    List.dropWhile_cons_of_neg (by simp [solid])
  rw [trimEnd, List.reverse_append, List.reverse_concat, List.dropWhile_append, kept]
  split
  · rename_i blank
    rw [trimEnd, List.isEmpty_iff.mp blank]
    simp
  · simp [trimEnd]

theorem trimChars_cons {first : Char} (solid : isWhiteSpace first = false) (rest : List Char) :
    trimChars (first :: rest) = trimEnd (first :: rest) := by
  rw [trimChars, List.dropWhile_cons_of_neg (by simp [solid])]

/-- White space at the end of a text makes no difference. -/
theorem trimChars_append_of_blank (chars : List Char) {blanks : List Char}
    (blank : ∀ c ∈ blanks, isWhiteSpace c = true) :
    trimChars (chars ++ blanks) = trimChars chars := by
  rw [trimChars, trimChars, List.dropWhile_append, List.dropWhile_eq_nil_iff.mpr blank]
  split
  · rename_i empty
    rw [List.isEmpty_iff.mp empty]
  · exact trimEnd_append_of_blank _ blank

/-- White space at the front of a text makes no difference. -/
theorem trimChars_cons_of_blank {first : Char} (blank : isWhiteSpace first = true)
    (rest : List Char) : trimChars (first :: rest) = trimChars rest := by
  rw [trimChars, List.dropWhile_cons_of_pos blank, trimChars]

theorem trimChars_append_left_of_blank {blanks : List Char}
    (blank : ∀ c ∈ blanks, isWhiteSpace c = true) (chars : List Char) :
    trimChars (blanks ++ chars) = trimChars chars := by
  rw [trimChars, List.dropWhile_append_of_pos blank, trimChars]

/-- What trimming leaves does not end with white space. -/
theorem isWhiteSpace_of_getLast?_trimChars {chars : List Char} {last : Char}
    (ends : (trimChars chars).getLast? = some last) : isWhiteSpace last = false := by
  rcases List.getLast?_eq_some_iff.mp ends with ⟨front, trimmed⟩
  rw [trimChars, trimEnd_eq_rdropWhile] at trimmed
  have solid :=
    List.rdropWhile_last_not isWhiteSpace (chars.dropWhile isWhiteSpace) (by simp [trimmed])
  simpa [trimmed] using solid

/-- A text that neither begins nor ends with white space is left as it is. -/
theorem trimChars_of_solid {chars : List Char} (first : ∀ c ∈ chars.head?, isWhiteSpace c = false)
    (last : ∀ c ∈ chars.getLast?, isWhiteSpace c = false) : trimChars chars = chars := by
  have kept : chars.dropWhile isWhiteSpace = chars := by
    cases chars with
    | nil => rfl
    | cons c rest => exact List.dropWhile_cons_of_neg (by simp [first c rfl])
  rw [trimChars, kept, trimEnd_eq_rdropWhile, List.rdropWhile_eq_self_iff]
  intro nonempty
  rw [last _ (List.getLast?_eq_some_getLast nonempty)]
  exact Bool.false_ne_true

theorem trimChars_eq_nil_iff {chars : List Char} :
    trimChars chars = [] ↔ ∀ c ∈ chars, isWhiteSpace c = true := by
  rw [trimChars, trimEnd_eq_rdropWhile, List.rdropWhile_eq_nil_iff, ← List.dropWhile_eq_nil_iff,
    List.dropWhile_idempotent, List.dropWhile_eq_nil_iff]

/-- A text is blank if and only if trimming leaves nothing of it. -/
theorem trim_eq_empty_iff {text : String} : trim text = "" ↔ isBlankText text = true := by
  rw [trim, isBlankText, List.all_eq_true, ← trimChars_eq_nil_iff]
  constructor
  · intro empty
    rw [← String.toList_ofList (l := trimChars text.toList), empty]
    rfl
  · intro empty
    rw [empty]

end MarkupLint.Text
