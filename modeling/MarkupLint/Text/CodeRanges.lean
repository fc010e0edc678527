/-!
# Sets of characters given by ranges of code points

A property of characters is stored as a list of ranges, both ends included. Every property in this
library answers for the ASCII characters by a rule of its own and keeps a table for the others, so
that the common case never searches a table.
-/

namespace MarkupLint.Text

/-- Ranges of code points, both ends included. -/
abbrev CodeRanges := List (Nat × Nat)

namespace CodeRanges

/-- Whether a character lies in one of the ranges. -/
def contains (ranges : CodeRanges) (c : Char) : Bool :=
  ranges.any fun range => range.1 ≤ c.toNat && c.toNat ≤ range.2

/-- Membership is membership in one of the listed ranges. -/
theorem contains_iff (ranges : CodeRanges) (c : Char) :
    ranges.contains c = true ↔
      ∃ range ∈ ranges, range.1 ≤ c.toNat ∧ c.toNat ≤ range.2 := by
  simp [contains]

end CodeRanges

end MarkupLint.Text
