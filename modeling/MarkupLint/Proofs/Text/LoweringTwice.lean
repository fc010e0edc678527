import MarkupLint.Proofs.Text.Lowercase

/-!
# Lowering twice is lowering once

No lower form of a character is itself a capital: the runs of the table lead to code points that
no run covers. So a text in lower case stays as it is, whatever stands around its characters, and
names that were lowered can be compared as if they had not been.
-/

namespace MarkupLint.Text

/-- Lowering leaves the character alone, wherever it stands. -/
structure IsLowered (c : Char) : Prop where
  plain : c ≠ 'Σ'
  same : lowerChar c = [c]

/-- Whether no lower form of the run `run` can be a capital of the run
`other`: the one ends before the other begins, or each holds every second code
point and they pass between each other. -/
def CaseRun.avoids (run other : CaseRun) : Bool :=
  Nat.blt (run.lower + (run.last - run.first)) other.first || Nat.blt other.last run.lower ||
    ((Nat.beq run.first run.last || Nat.beq run.step 2) && Nat.beq other.step 2 &&
      Nat.beq ((run.lower + other.first) % 2) 1)

theorem caseRuns_avoid : (caseRuns.all fun run => caseRuns.all run.avoids) = true := by
  decide +kernel

/-- The dotted capital I, which has two characters in its lower form, is no lower form either. -/
theorem caseRuns_avoid_dotted :
    ∀ run ∈ caseRuns, run.lower + (run.last - run.first) < 'İ'.toNat ∨ 'İ'.toNat < run.lower := by
  decide +kernel

theorem sigma_covered : (caseRuns.any fun run => run.covers 'Σ'.toNat) = true := by
  decide +kernel

theorem CaseRun.not_covers_of_avoids {run other : CaseRun} (avoids : run.avoids other = true)
    {code : Nat} (covers : run.covers code = true) :
    other.covers (run.lower + (code - run.first)) = false := by
  simp only [CaseRun.avoids, Bool.or_eq_true, Bool.and_eq_true, Nat.blt_eq, Nat.beq_eq] at avoids
  simp only [CaseRun.covers, Bool.and_eq_true, decide_eq_true_eq, beq_iff_eq] at covers
  rcases covers with ⟨⟨first, last⟩, step⟩
  apply Bool.eq_false_iff.mpr
  intro covered
  simp only [CaseRun.covers, Bool.and_eq_true, decide_eq_true_eq, beq_iff_eq] at covered
  rcases covered with ⟨⟨first', last'⟩, step'⟩
  rcases avoids with (below | above) | ⟨⟨sparse, two⟩, odd⟩
  · omega
  · omega
  · rw [two] at step'
    rcases sparse with single | sparse
    · omega
    · rw [sparse] at step
      omega

theorem isLowered_of_ascii {c : Char} (ascii : c.toNat < 0x80) (lower : c.toLower = c) :
    IsLowered c := by
  constructor
  · rintro rfl
    exact absurd ascii (by decide)
  · rw [lowerChar, if_pos ascii, lower]

/-- A character that no run of the table covers is left alone. The capital
sigma is covered by one. -/
theorem isLowered_of_uncovered {c : Char} (beyond : ¬ c.toNat < 0x80) (undotted : c ≠ 'İ')
    (uncovered : ∀ run ∈ caseRuns, run.covers c.toNat = false) : IsLowered c := by
  constructor
  · rintro rfl
    rcases List.any_eq_true.mp sigma_covered with ⟨run, mem, covered⟩
    rw [uncovered run mem] at covered
    contradiction
  · have missing : (caseRuns.find? fun run => run.covers c.toNat) = none := by
      apply List.find?_eq_none.mpr
      intro run mem
      rw [uncovered run mem]
      exact Bool.false_ne_true
    rw [lowerChar, if_neg beyond, if_neg undotted, missing]

/-- A lower form that stands in the table is left alone. -/
theorem isLowered_of_run {run : CaseRun} (mem : run ∈ caseRuns) {code : Nat}
    (covers : run.covers code = true) :
    IsLowered (Char.ofNat (run.lower + (code - run.first))) := by
  have bounds := covers
  simp only [CaseRun.covers, Bool.and_eq_true, decide_eq_true_eq] at bounds
  rcases toNat_ofNat_cases (run.lower + (code - run.first)) with same | zero
  · rcases lower_of_mem_caseRuns run mem with large | ⟨single, isK⟩
    · apply isLowered_of_uncovered
      · omega
      · intro dotted
        have undotted := caseRuns_avoid_dotted run mem
        rw [dotted] at same
        omega
      · intro other otherMem
        have avoids :=
          List.all_eq_true.mp (List.all_eq_true.mp caseRuns_avoid run mem) other otherMem
        rw [same]
        exact CaseRun.not_covers_of_avoids avoids covers
    · -- the lower form of the Kelvin sign
      have only : run.lower + (code - run.first) = 'k'.toNat := by omega
      rw [only]
      exact isLowered_of_ascii (by decide) (by decide)
  · have null : Char.ofNat (run.lower + (code - run.first)) = Char.ofNat 0 := by
      rw [← Char.ofNat_toNat (Char.ofNat _), zero]
    rw [null]
    exact isLowered_of_ascii (by decide) (by decide)

theorem toNat_toLower_lt {c : Char} (ascii : c.toNat < 0x80) : c.toLower.toNat < 0x80 := by
  by_cases capital : c.isUpper = true
  · have letter : c.toLower.isAlpha = true := by
      rw [Char.isAlpha_toLower_eq_isAlpha]
      simp [Char.isAlpha, capital]
    exact toNat_lt_of_isAlpha letter
  · rw [Char.toLower_eq_of_not_isUpper capital]
    exact ascii

/-- The lower form of a character is made of characters that lowering leaves alone. -/
theorem isLowered_of_mem_lowerChar {c x : Char} (mem : x ∈ lowerChar c) : IsLowered x := by
  unfold lowerChar at mem
  split at mem
  · rename_i ascii
    rw [List.mem_singleton.mp mem]
    exact isLowered_of_ascii (toNat_toLower_lt ascii) (Char.toLower_toLower_eq_toLower c)
  · rename_i beyond
    split at mem
    · rcases List.mem_cons.mp mem with rfl | mark
      · exact isLowered_of_ascii (by decide) (by decide)
      · rw [List.mem_singleton.mp mark]
        exact ⟨by decide, by decide +kernel⟩
    · rename_i undotted
      split at mem
      · rename_i run found
        have covers := List.find?_some found
        rw [List.mem_singleton.mp mem]
        exact isLowered_of_run (List.mem_of_find?_eq_some found) covers
      · rename_i missing
        rw [List.mem_singleton.mp mem]
        apply isLowered_of_uncovered beyond undotted
        intro run runMem
        exact Bool.eq_false_iff.mpr (List.find?_eq_none.mp missing run runMem)

theorem isLowered_lowerSigma (before after : List Char) : IsLowered (lowerSigma before after) := by
  unfold lowerSigma
  split <;> exact ⟨by decide, by decide +kernel⟩

theorem isLowered_of_mem_lowerAfter {before chars : List Char} {x : Char}
    (mem : x ∈ lowerAfter before chars) : IsLowered x := by
  induction chars generalizing before with
  | nil => contradiction
  | cons c rest ih =>
      rw [lowerAfter] at mem
      rcases List.mem_append.mp mem with first | later
      · split at first
        · rw [List.mem_singleton.mp first]
          exact isLowered_lowerSigma before rest
        · exact isLowered_of_mem_lowerChar first
      · exact ih later

theorem lowerAfter_of_isLowered {chars : List Char} (lowered : ∀ c ∈ chars, IsLowered c)
    (before : List Char) : lowerAfter before chars = chars := by
  induction chars generalizing before with
  | nil => rfl
  | cons c rest ih =>
      rcases List.forall_mem_cons.mp lowered with ⟨first, others⟩
      rw [lowerAfter, if_neg first.plain, first.same, ih others, List.singleton_append]

theorem lowerChars_lowerChars (chars : List Char) :
    lowerChars (lowerChars chars) = lowerChars chars :=
  lowerAfter_of_isLowered (fun _ mem => isLowered_of_mem_lowerAfter mem) []

/-- A text in lower case is its own lower form. -/
@[simp]
theorem lowercase_lowercase (text : String) : lowercase (lowercase text) = lowercase text := by
  rw [lowercase, lowercase, String.toList_ofList, lowerChars_lowerChars]

/-- Names match if and only if their lower forms are equal. -/
theorem namesMatch_iff {first second : String} :
    namesMatch first second = true ↔ lowercase first = lowercase second := by
  rw [namesMatch, Bool.or_eq_true, beq_iff_eq, beq_iff_eq]
  constructor
  · rintro (rfl | same)
    · rfl
    · exact same
  · exact Or.inr

end MarkupLint.Text
