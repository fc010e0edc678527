import MarkupLint.Markup.Position
import MarkupLint.Text.WhiteSpace

/-!
# Pieces of a text

A slice is a run of characters together with the byte offset at which it starts. What is left to
read of a text is a slice too, so reading is splitting: every operation here divides a slice into
the part read and the part left, and loses nothing. `cutBefore` is the one scanning loop: it cuts
a list in front of the first suffix that passes a test.
-/

namespace MarkupLint.Markup

/-- Continues a cut; `read` holds the characters passed so far, last one first. -/
def cutFrom (stop : List Char → Bool) (read : List Char) : List Char → List Char × List Char
  | [] => (read.reverse, [])
  | c :: rest =>
      if stop (c :: rest) then (read.reverse, c :: rest) else cutFrom stop (c :: read) rest

/-- Cuts a list in front of its first suffix that passes the test `stop`. -/
def cutBefore (stop : List Char → Bool) (chars : List Char) : List Char × List Char :=
  cutFrom stop [] chars

theorem cutFrom_eq (stop : List Char → Bool) (read chars : List Char) :
    cutFrom stop read chars =
      (read.reverse ++ (cutBefore stop chars).1, (cutBefore stop chars).2) := by
  induction chars generalizing read with
  | nil => simp [cutBefore, cutFrom]
  | cons c rest ih =>
      by_cases stops : stop (c :: rest) = true
      · simp [cutBefore, cutFrom, stops]
      · simp [cutBefore, cutFrom, stops, ih (c :: read), ih [c]]

@[simp]
theorem cutBefore_nil (stop : List Char → Bool) : cutBefore stop [] = ([], []) :=
  rfl

theorem cutBefore_cons (stop : List Char → Bool) (c : Char) (rest : List Char) :
    cutBefore stop (c :: rest) =
      if stop (c :: rest) then ([], c :: rest)
      else (c :: (cutBefore stop rest).1, (cutBefore stop rest).2) := by
  by_cases stops : stop (c :: rest) = true
  · simp [cutBefore, cutFrom, stops]
  · simp [cutBefore, cutFrom, stops, cutFrom_eq stop [c] rest]

/-- A cut loses nothing. -/
@[simp]
theorem cutBefore_append (stop : List Char → Bool) (chars : List Char) :
    (cutBefore stop chars).1 ++ (cutBefore stop chars).2 = chars := by
  induction chars with
  | nil => rfl
  | cons c rest ih =>
      rw [cutBefore_cons]
      split
      · rfl
      · simp [ih]

/-- What a cut leaves is no longer than what was cut. -/
theorem length_cutBefore_le (stop : List Char → Bool) (chars : List Char) :
    (cutBefore stop chars).2.length ≤ chars.length := by
  have whole := congrArg List.length (cutBefore_append stop chars)
  simp only [List.length_append] at whole
  omega

/-- What a cut leaves, if anything, passes the test. -/
theorem cutBefore_snd_eq_cons {stop : List Char → Bool} {chars : List Char} {c : Char}
    {rest : List Char} (left : (cutBefore stop chars).2 = c :: rest) :
    stop (c :: rest) = true := by
  induction chars with
  | nil => simp at left
  | cons first others ih =>
      rw [cutBefore_cons] at left
      split at left
      · rename_i stops
        simpa [← left] using stops
      · exact ih left

/-- Whether a list starts with a character that fails the test. -/
def startsOutside (keep : Char → Bool) : List Char → Bool
  | c :: _ => !keep c
  | [] => false

/-- A run of characters and the byte offset at which it starts. -/
structure Slice where
  start : Nat
  chars : List Char
deriving DecidableEq, Repr, Inhabited

namespace Slice

/-- A whole text. -/
def ofText (text : String) : Slice :=
  ⟨0, text.toList⟩

/-- The byte offset behind the slice. -/
def stop (slice : Slice) : Nat :=
  slice.start + byteSize slice.chars

/-- The number of characters of the slice. -/
def length (slice : Slice) : Nat :=
  slice.chars.length

/-- Splits a slice in front of its first suffix that passes the test. -/
def cut (test : List Char → Bool) (slice : Slice) : Slice × Slice :=
  let parts := cutBefore test slice.chars
  (⟨slice.start, parts.1⟩, ⟨slice.start + byteSize parts.1, parts.2⟩)

/-- Splits a slice behind its first `count` characters. -/
def splitAt (count : Nat) (slice : Slice) : Slice × Slice :=
  (⟨slice.start, slice.chars.take count⟩,
    ⟨slice.start + byteSize (slice.chars.take count), slice.chars.drop count⟩)

/-- Splits a slice behind the longest run of characters that pass the test. -/
def splitWhile (keep : Char → Bool) (slice : Slice) : Slice × Slice :=
  slice.cut (startsOutside keep)

/-- The slice without its first `count` characters. -/
def drop (count : Nat) (slice : Slice) : Slice :=
  (slice.splitAt count).2

/-- The slice without the blanks at its beginning. -/
def skipBlanks (slice : Slice) : Slice :=
  (slice.splitWhile Text.isBlank).2

/-- Two neighbouring slices as one. -/
def append (first second : Slice) : Slice :=
  ⟨first.start, first.chars ++ second.chars⟩

theorem length_cut_le (test : List Char → Bool) (slice : Slice) :
    (slice.cut test).2.length ≤ slice.length :=
  length_cutBefore_le test slice.chars

theorem length_splitWhile_le (keep : Char → Bool) (slice : Slice) :
    (slice.splitWhile keep).2.length ≤ slice.length :=
  length_cut_le _ slice

theorem length_skipBlanks_le (slice : Slice) : slice.skipBlanks.length ≤ slice.length :=
  length_splitWhile_le _ slice

@[simp]
theorem length_drop (count : Nat) (slice : Slice) :
    (slice.drop count).length = slice.length - count := by
  simp [drop, splitAt, length]

end Slice

end MarkupLint.Markup
