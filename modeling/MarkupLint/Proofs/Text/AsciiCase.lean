import MarkupLint.Proofs.Text.LoweringTwice
import MarkupLint.Proofs.Text.WhiteSpace
import MarkupLint.Text.Uppercase

/-!
# The case of ASCII letters

Lowering the ASCII letters of a text first makes no difference to what lowering or trimming it
gives: letters count as letters in either case, also where the form of a capital sigma depends on
its neighbours. On ASCII, raising goes letter by letter.
-/

namespace MarkupLint.Text

theorem exists_of_isUpper {c : Char} (capital : c.isUpper = true) :
    ∃ n < 26, c = Char.ofNat (n + 65) := by
  simp only [Char.isUpper, decide_eq_true_eq, UInt32.le_iff_toNat_le] at capital
  have bounds : 65 ≤ c.toNat ∧ c.toNat ≤ 90 := capital
  refine ⟨c.toNat - 65, by omega, ?_⟩
  rw [Nat.sub_add_cancel bounds.1, Char.ofNat_toNat]

/-- What does not tell a capital from its small letter does not see whether a
character was lowered. -/
theorem apply_toLower {β : Type} {f : Char → β}
    (same : ∀ n < 26, f (Char.ofNat (n + 65)).toLower = f (Char.ofNat (n + 65))) (c : Char) :
    f c.toLower = f c := by
  by_cases capital : c.isUpper = true
  · rcases exists_of_isUpper capital with ⟨n, small, rfl⟩
    exact same n small
  · rw [Char.toLower_eq_of_not_isUpper capital]

theorem isWhiteSpace_toLower (c : Char) : isWhiteSpace c.toLower = isWhiteSpace c :=
  apply_toLower (by decide +kernel) c

theorem isCased_toLower (c : Char) : isCased c.toLower = isCased c :=
  apply_toLower (by decide +kernel) c

theorem isCaseIgnorable_toLower (c : Char) : isCaseIgnorable c.toLower = isCaseIgnorable c :=
  apply_toLower (by decide +kernel) c

theorem lowerChar_toLower (c : Char) : lowerChar c.toLower = lowerChar c :=
  apply_toLower (by decide +kernel) c

theorem isDigit_toLower (c : Char) : c.toLower.isDigit = c.isDigit :=
  apply_toLower (by decide) c

theorem isDigit_toUpper (c : Char) : c.toUpper.isDigit = c.isDigit := by
  rw [← isDigit_toLower c.toUpper, Char.toLower_toUpper_eq_toLower, isDigit_toLower]

/-- Lowering the ASCII letters yields no character that is none. -/
theorem toLower_beq {d : Char}
    (other : ∀ n < 26, (Char.ofNat (n + 65)).toLower ≠ d ∧ Char.ofNat (n + 65) ≠ d) (c : Char) :
    (c.toLower == d) = (c == d) := by
  apply apply_toLower (f := (· == d))
  intro n small
  rw [beq_eq_false_iff_ne.mpr (other n small).1, beq_eq_false_iff_ne.mpr (other n small).2]

/-! ## Texts -/

theorem map_trimChars_toLower (chars : List Char) :
    (trimChars chars).map Char.toLower = trimChars (chars.map Char.toLower) := by
  have same : isWhiteSpace ∘ Char.toLower = isWhiteSpace := funext isWhiteSpace_toLower
  simp only [trimChars, trimEnd, List.dropWhile_map, ← List.map_reverse, same]

theorem leadsToCased_map_toLower (chars : List Char) :
    leadsToCased (chars.map Char.toLower) = leadsToCased chars := by
  have same : isCaseIgnorable ∘ Char.toLower = isCaseIgnorable := funext isCaseIgnorable_toLower
  rw [leadsToCased, List.dropWhile_map, same, leadsToCased]
  cases chars.dropWhile isCaseIgnorable with
  | nil => rfl
  | cons c rest => exact isCased_toLower c

theorem lowerAfter_map_toLower (before chars : List Char) :
    lowerAfter (before.map Char.toLower) (chars.map Char.toLower) = lowerAfter before chars := by
  induction chars generalizing before with
  | nil => rfl
  | cons c rest ih =>
      have sigma : (c.toLower = 'Σ') = (c = 'Σ') := by
        have same := toLower_beq (d := 'Σ') (by decide) c
        rw [Bool.eq_iff_iff, beq_iff_eq, beq_iff_eq] at same
        exact propext same
      have later := ih (c :: before)
      rw [List.map_cons] at later
      simp only [List.map_cons, lowerAfter, sigma, lowerSigma, leadsToCased_map_toLower,
        lowerChar_toLower, later]

/-- The lower form of a text does not depend on the case of its ASCII letters. -/
theorem lowerChars_map_toLower (chars : List Char) :
    lowerChars (chars.map Char.toLower) = lowerChars chars :=
  lowerAfter_map_toLower [] chars

/-- On ASCII, raising goes letter by letter. -/
theorem upperChars_of_ascii {chars : List Char} (ascii : ∀ c ∈ chars, c.toNat < 0x80) :
    upperChars chars = chars.map Char.toUpper := by
  induction chars with
  | nil => rfl
  | cons c rest ih =>
      rcases List.forall_mem_cons.mp ascii with ⟨small, others⟩
      rw [List.map_cons, ← ih others, upperChars, List.flatMap_cons, upperChar, if_pos small,
        List.singleton_append, upperChars]

end MarkupLint.Text
