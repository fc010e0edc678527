import MarkupLint.Markup.Slice

/-!
# Offsets, boundaries and parts of a text

An offset is a boundary of a text if the text divides there, that is if some front part of the
text has that many bytes. At a boundary, `Position.ofOffset` is the plain reading of line and
column: the position behind the front part. The second half says how slices stand to each other:
one divides into two, ends another, or lies within it.
-/

namespace MarkupLint.Markup

/-! ## Boundaries -/

theorem byteSize_eq_zero_iff {chars : List Char} : byteSize chars = 0 ↔ chars = [] := by
  cases chars with
  | nil => simp
  | cons c rest =>
      have positive := c.utf8Size_pos
      simp only [byteSize_cons, reduceCtorEq, iff_false]
      omega

theorem byteSize_pos_iff {chars : List Char} : 0 < byteSize chars ↔ chars ≠ [] := by
  rw [Nat.pos_iff_ne_zero, ne_eq, byteSize_eq_zero_iff]

/-- The characters in front of an offset. -/
def prefixTo : Nat → List Char → List Char
  | _, [] => []
  | offset, c :: rest => if offset = 0 then [] else c :: prefixTo (offset - c.utf8Size) rest

theorem prefixTo_byteSize (before after : List Char) :
    prefixTo (byteSize before) (before ++ after) = before := by
  induction before with
  | nil => cases after <;> simp [prefixTo]
  | cons c before ih =>
      have positive := c.utf8Size_pos
      have nonzero : c.utf8Size + byteSize before ≠ 0 := by omega
      rw [List.cons_append, byteSize_cons, prefixTo, if_neg nonzero, Nat.add_sub_cancel_left, ih]

theorem prefixTo_isPrefix (offset : Nat) (text : List Char) : prefixTo offset text <+: text := by
  induction text generalizing offset with
  | nil => simp [prefixTo]
  | cons c rest ih =>
      rw [prefixTo]
      split
      · exact List.nil_prefix
      · exact List.cons_prefix_cons.mpr ⟨rfl, ih _⟩

/-- The text divides at the offset. -/
def Boundary (text : List Char) (offset : Nat) : Prop :=
  ∃ before after, text = before ++ after ∧ byteSize before = offset

theorem boundary_iff_byteSize_prefixTo {text : List Char} {offset : Nat} :
    Boundary text offset ↔ byteSize (prefixTo offset text) = offset := by
  constructor
  · rintro ⟨before, after, rfl, rfl⟩
    rw [prefixTo_byteSize]
  · intro size
    obtain ⟨after, whole⟩ := prefixTo_isPrefix offset text
    exact ⟨_, after, whole.symm, size⟩

instance (text : List Char) (offset : Nat) : Decidable (Boundary text offset) :=
  decidable_of_iff _ boundary_iff_byteSize_prefixTo.symm

/-- The position of an offset, said without regard to how it is looked up: one
more than the line breaks in front of it, and one more than the characters
between the last of them and the offset. -/
def Position.ofOffset (text : List Char) (offset : Nat) : Position :=
  Position.after (prefixTo offset text)

theorem Position.ofOffset_byteSize (before after : List Char) :
    Position.ofOffset (before ++ after) (byteSize before) = Position.after before := by
  rw [Position.ofOffset, prefixTo_byteSize]

theorem Position.offset_ofOffset {text : List Char} {offset : Nat}
    (boundary : Boundary text offset) : (Position.ofOffset text offset).offset = offset :=
  boundary_iff_byteSize_prefixTo.mp boundary

/-! ## Parts of a slice -/

namespace Slice

@[simp]
theorem start_append (first second : Slice) : (first.append second).start = first.start :=
  rfl

@[simp]
theorem chars_append (first second : Slice) :
    (first.append second).chars = first.chars ++ second.chars :=
  rfl

theorem start_le_stop (slice : Slice) : slice.start ≤ slice.stop :=
  Nat.le_add_right _ _

theorem start_lt_stop {slice : Slice} (nonempty : slice.chars ≠ []) :
    slice.start < slice.stop := by
  have positive := byteSize_pos_iff.mpr nonempty
  unfold stop
  omega

/-- `slice` divides into `first` and, behind it, `second`. -/
structure Splits (slice first second : Slice) : Prop where
  chars : slice.chars = first.chars ++ second.chars
  start : first.start = slice.start
  next : second.start = first.stop

/-- `last` is what is left of `slice` behind some of its characters. -/
def Ends (last slice : Slice) : Prop :=
  ∃ before, slice.chars = before ++ last.chars ∧ last.start = slice.start + byteSize before

/-- `inner` is a run of characters of `outer`. -/
def Within (inner outer : Slice) : Prop :=
  ∃ before after, outer.chars = before ++ inner.chars ++ after ∧
    inner.start = outer.start + byteSize before

theorem Ends.refl (slice : Slice) : slice.Ends slice :=
  ⟨[], rfl, rfl⟩

theorem Ends.trans {last middle slice : Slice} (first : last.Ends middle)
    (second : middle.Ends slice) : last.Ends slice := by
  obtain ⟨before, chars, start⟩ := first
  obtain ⟨before', chars', start'⟩ := second
  refine ⟨before' ++ before, ?_, ?_⟩
  · rw [chars', chars, List.append_assoc]
  · rw [start, start', byteSize_append, Nat.add_assoc]

theorem Ends.stop_eq {last slice : Slice} (ends : last.Ends slice) : last.stop = slice.stop := by
  obtain ⟨before, chars, start⟩ := ends
  simp only [stop, chars, start, byteSize_append]
  omega

theorem Ends.start_le {last slice : Slice} (ends : last.Ends slice) :
    slice.start ≤ last.start := by
  obtain ⟨before, chars, start⟩ := ends
  omega

theorem Ends.within {last slice : Slice} (ends : last.Ends slice) : last.Within slice := by
  obtain ⟨before, chars, start⟩ := ends
  exact ⟨before, [], by simp [chars], start⟩

theorem Within.trans {inner middle outer : Slice} (first : inner.Within middle)
    (second : middle.Within outer) : inner.Within outer := by
  obtain ⟨before, after, chars, start⟩ := first
  obtain ⟨before', after', chars', start'⟩ := second
  refine ⟨before' ++ before, after ++ after', ?_, ?_⟩
  · simp [chars', chars, List.append_assoc]
  · rw [start, start', byteSize_append, Nat.add_assoc]

theorem Within.start_le {inner outer : Slice} (within : inner.Within outer) :
    outer.start ≤ inner.start := by
  obtain ⟨before, after, chars, start⟩ := within
  omega

theorem Splits.ends {slice first second : Slice} (splits : slice.Splits first second) :
    second.Ends slice := by
  refine ⟨first.chars, splits.chars, ?_⟩
  rw [splits.next, stop, splits.start]

theorem Splits.within {slice first second : Slice} (splits : slice.Splits first second) :
    first.Within slice :=
  ⟨[], second.chars, by simp [splits.chars], by simp [splits.start]⟩

/-- Cutting twice is cutting once, behind both parts. -/
theorem Splits.append {slice first middle second last : Slice} (outer : slice.Splits first middle)
    (inner : middle.Splits second last) : slice.Splits (first.append second) last where
  chars := by simp [outer.chars, inner.chars, List.append_assoc]
  start := outer.start
  next := by
    rw [inner.next, stop, inner.start, outer.next]
    simp [stop, Nat.add_assoc]

/-- Both ends of a part of a text are boundaries of it. -/
theorem Within.boundary {slice : Slice} {text : String} (within : slice.Within (ofText text)) :
    Boundary text.toList slice.start ∧ Boundary text.toList slice.stop := by
  obtain ⟨before, after, chars, start⟩ := within
  simp only [ofText, Nat.zero_add] at chars start
  constructor
  · exact ⟨before, slice.chars ++ after, by simp [chars], start.symm⟩
  · exact ⟨before ++ slice.chars, after, chars, by rw [byteSize_append, stop, start]⟩

end Slice

end MarkupLint.Markup
