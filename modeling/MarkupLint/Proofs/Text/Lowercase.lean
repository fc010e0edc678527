import Mathlib
import MarkupLint.Text.Lowercase

/-!
# Lower case within ASCII

Lowering an ASCII text lowers each of its letters. The other way round, hardly any character
beyond ASCII has an ASCII character in its lower form: only the Kelvin sign and the dotted capital
I do. So a text whose lower form is ASCII without the letter k is itself ASCII.
-/

namespace MarkupLint.Text

/-- On ASCII, lowering goes letter by letter. -/
theorem lowerAfter_of_ascii {chars : List Char} (ascii : ∀ c ∈ chars, c.toNat < 0x80)
    (before : List Char) : lowerAfter before chars = chars.map Char.toLower := by
  induction chars generalizing before with
  | nil => rfl
  | cons c rest ih =>
      have small := ascii c List.mem_cons_self
      have notSigma : c ≠ 'Σ' := by
        rintro rfl
        exact absurd small (by decide)
      rw [lowerAfter, if_neg notSigma, lowerChar, if_pos small, List.map_cons,
        ih fun d mem => ascii d (List.mem_cons_of_mem c mem), List.singleton_append]

/-- A letter is ASCII. -/
theorem toNat_lt_of_isAlpha {c : Char} (letter : c.isAlpha = true) : c.toNat < 0x80 := by
  simp only [Char.isAlpha, Char.isUpper, Char.isLower, Bool.or_eq_true, Bool.and_eq_true,
    decide_eq_true_eq, UInt32.le_iff_toNat_le] at letter
  have bound : c.toNat ≤ 'z'.toNat := by
    rcases letter with capital | small
    · exact Nat.le_trans capital.2 (by decide)
    · exact small.2
  exact Nat.lt_of_le_of_lt bound (by decide)

/-- Only the Kelvin sign is lowered into ASCII by the table. -/
theorem lower_of_mem_caseRuns :
    ∀ run ∈ caseRuns, 0x80 ≤ run.lower ∨ (run.first = run.last ∧ run.lower = 'k'.toNat) := by
  decide +kernel

theorem toNat_ofNat_cases (code : Nat) :
    (Char.ofNat code).toNat = code ∨ (Char.ofNat code).toNat = 0 := by
  unfold Char.ofNat
  split
  · exact Or.inl rfl
  · exact Or.inr rfl

/-- A character beyond ASCII whose lower form is made of letters has a k in it. -/
theorem k_mem_lowerChar {c : Char} (beyond : 0x80 ≤ c.toNat)
    (letters : ∀ x ∈ lowerChar c, x.isAlpha = true) : 'k' ∈ lowerChar c := by
  rw [lowerChar, if_neg (Nat.not_lt.mpr beyond)] at letters ⊢
  by_cases dotted : c = 'İ'
  · rw [if_pos dotted] at letters
    exact absurd (letters '\u0307' (by simp)) (by decide)
  · rw [if_neg dotted] at letters ⊢
    split at letters
    · rename_i run found
      have letter := letters _ (List.mem_singleton_self _)
      have small := toNat_lt_of_isAlpha letter
      have covers := List.find?_some found
      simp only [CaseRun.covers, Bool.and_eq_true, decide_eq_true_eq] at covers
      rcases lower_of_mem_caseRuns run (List.mem_of_find?_eq_some found) with large | ⟨single, isK⟩
      · rcases toNat_ofNat_cases (run.lower + (c.toNat - run.first)) with same | zero
        · omega
        · have null : Char.ofNat (run.lower + (c.toNat - run.first)) = Char.ofNat 0 := by
            rw [← Char.ofNat_toNat (Char.ofNat _), zero]
          rw [null] at letter
          exact absurd letter (by decide)
      · have only : c.toNat - run.first = 0 := by omega
        simp only [only, isK]
        decide
    · have small := toNat_lt_of_isAlpha (letters c (List.mem_singleton_self c))
      omega

/-- A text whose lower form is made of letters other than k is ASCII, and
lowered letter by letter. -/
theorem map_toLower_of_lowerAfter {before chars lower : List Char}
    (lowered : lowerAfter before chars = lower) (letters : ∀ x ∈ lower, x.isAlpha = true)
    (noK : 'k' ∉ lower) : chars.map Char.toLower = lower := by
  have ascii : ∀ c ∈ chars, c.toNat < 0x80 := by
    induction chars generalizing before lower with
    | nil => simp
    | cons c rest ih =>
        rw [lowerAfter] at lowered
        subst lowered
        rw [List.mem_append, not_or] at noK
        have restAscii := ih rfl (fun x mem => letters x (List.mem_append_right _ mem)) noK.2
        have small : c.toNat < 0x80 := by
          by_contra beyond
          split at letters
          · have sigma := letters (lowerSigma before rest) (by simp)
            unfold lowerSigma at sigma
            split at sigma <;> exact absurd sigma (by decide)
          · rename_i notSigma
            rw [if_neg notSigma] at noK
            exact noK.1 (k_mem_lowerChar (Nat.le_of_not_lt beyond)
              fun x mem => letters x (List.mem_append_left _ mem))
        exact List.forall_mem_cons.mpr ⟨small, restAscii⟩
  rw [← lowered, lowerAfter_of_ascii ascii]

end MarkupLint.Text
