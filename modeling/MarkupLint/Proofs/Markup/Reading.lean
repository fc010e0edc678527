import MarkupLint.Markup.Lexeme
import MarkupLint.Proofs.Markup.Offset

/-!
# What the readers read

Each reader divides the slice it is given: what it returns lies within the slice, in the order in
which it was read, and what it leaves ends the slice. The loop over the attributes of a tag is
described by a relation, `ReadsBody`, with one rule for each way the loop can go on.
-/

namespace MarkupLint.Markup

/-! ## Cuts -/

/-- Cutting in front of the first character that fails a test keeps those that pass it. -/
theorem cutBefore_startsOutside (keep : Char → Bool) (chars : List Char) :
    cutBefore (startsOutside keep) chars = (chars.takeWhile keep, chars.dropWhile keep) := by
  induction chars with
  | nil => rfl
  | cons c rest ih =>
      rw [cutBefore_cons, ih]
      cases kept : keep c <;> simp [startsOutside, kept]

/-- The test fails wherever a cut passes by. -/
theorem stop_eq_false_of_passed {stop : List Char → Bool} {chars before after : List Char}
    (passed : (cutBefore stop chars).1 = before ++ after) (some : after ≠ []) :
    stop (after ++ (cutBefore stop chars).2) = false := by
  induction chars generalizing before with
  | nil => exact absurd (List.append_eq_nil_iff.mp passed.symm).2 some
  | cons c rest ih =>
      rw [cutBefore_cons] at passed ⊢
      split at passed
      · exact absurd (List.append_eq_nil_iff.mp passed.symm).2 some
      · rename_i goesOn
        rw [if_neg goesOn]
        cases before with
        | nil =>
            rw [List.nil_append] at passed
            rw [← passed, List.cons_append, cutBefore_append]
            exact Bool.eq_false_iff.mpr goesOn
        | cons first before => exact ih (List.cons.inj passed).2

namespace Slice

theorem cut_splits (test : List Char → Bool) (slice : Slice) :
    slice.Splits (slice.cut test).1 (slice.cut test).2 where
  chars := (cutBefore_append test slice.chars).symm
  start := rfl
  next := rfl

theorem splits_of_cut {test : List Char → Bool} {slice content rest : Slice}
    (split : slice.cut test = (content, rest)) : slice.Splits content rest := by
  have splits := slice.cut_splits test
  rwa [split] at splits

theorem splitAt_splits (count : Nat) (slice : Slice) :
    slice.Splits (slice.splitAt count).1 (slice.splitAt count).2 where
  chars := (List.take_append_drop count slice.chars).symm
  start := rfl
  next := rfl

theorem splitWhile_splits (keep : Char → Bool) (slice : Slice) :
    slice.Splits (slice.splitWhile keep).1 (slice.splitWhile keep).2 :=
  cut_splits _ slice

theorem chars_splitWhile_fst (keep : Char → Bool) (slice : Slice) :
    (slice.splitWhile keep).1.chars = slice.chars.takeWhile keep :=
  congrArg Prod.fst (cutBefore_startsOutside keep slice.chars)

theorem chars_splitWhile_snd (keep : Char → Bool) (slice : Slice) :
    (slice.splitWhile keep).2.chars = slice.chars.dropWhile keep :=
  congrArg Prod.snd (cutBefore_startsOutside keep slice.chars)

theorem drop_ends (count : Nat) (slice : Slice) : (slice.drop count).Ends slice :=
  (splitAt_splits count slice).ends

theorem skipBlanks_ends (slice : Slice) : slice.skipBlanks.Ends slice :=
  (splitWhile_splits _ slice).ends

theorem start_drop_one {slice : Slice} {c : Char} {rest : List Char}
    (front : slice.chars = c :: rest) : (slice.drop 1).start = slice.start + c.utf8Size := by
  simp [drop, splitAt, front]

theorem start_lt_start_drop_one {slice : Slice} {c : Char} {rest : List Char}
    (front : slice.chars = c :: rest) : slice.start < (slice.drop 1).start := by
  have positive := c.utf8Size_pos
  rw [start_drop_one front]
  omega

theorem splitThrough_splits (test : Char → Bool) (slice : Slice) :
    slice.Splits (slice.splitThrough test).1 (slice.splitThrough test).2 :=
  (splitWhile_splits _ slice).append (splitAt_splits 1 _)

theorem readComment_splits (slice : Slice) :
    slice.Splits slice.readComment.1 slice.readComment.2 :=
  ((splitAt_splits 4 slice).append (cut_splits _ _)).append (splitAt_splits 3 _)

theorem readText_splits (slice : Slice) : slice.Splits slice.readText.1 slice.readText.2 :=
  (splitAt_splits 1 slice).append (cut_splits _ _)

/-! ## Closing tags -/

theorem readClosing_splits (slice : Slice) :
    slice.Splits slice.readClosing.1 slice.readClosing.2.2 :=
  ((splitAt_splits 2 slice).append (splitWhile_splits _ _)).append (splitThrough_splits _ _)

theorem splits_of_readClosing {slice whole name after : Slice}
    (read : slice.readClosing = (whole, name, after)) : slice.Splits whole after := by
  have splits := slice.readClosing_splits
  rwa [read] at splits

theorem readClosing_name_within (slice : Slice) : slice.readClosing.2.1.Within slice :=
  (splitWhile_splits isTagNameChar (slice.drop 2)).within.trans (drop_ends 2 slice).within

/-- The name of a closing tag stands behind its two marks and lasts as long as a name can. -/
theorem readClosing_name_eq {slice : Slice} {rest : List Char}
    (front : slice.chars = '<' :: '/' :: rest) :
    slice.readClosing.2.1 = ⟨slice.start + 2, rest.takeWhile isTagNameChar⟩ := by
  have start : slice.readClosing.2.1.start = slice.start + 2 := by
    change (slice.drop 2).start = slice.start + 2
    simp only [drop, splitAt, front, List.take_succ_cons, List.take_zero]
    rfl
  have chars : slice.readClosing.2.1.chars = rest.takeWhile isTagNameChar := by
    change ((slice.drop 2).splitWhile isTagNameChar).1.chars = rest.takeWhile isTagNameChar
    rw [chars_splitWhile_fst]
    simp only [drop, splitAt, front, List.drop_succ_cons, List.drop_zero]
  rw [← start, ← chars]

/-! ## Attributes -/

/-- `part` was read from `slice`, which leaves `rest`. -/
structure Yields (slice part rest : Slice) : Prop where
  within : part.Within slice
  ends : rest.Ends slice
  stop_le : part.stop ≤ rest.start

theorem Splits.yields {slice first second : Slice} (splits : slice.Splits first second) :
    slice.Yields first second :=
  ⟨splits.within, splits.ends, Nat.le_of_eq splits.next.symm⟩

theorem Yields.of_ends {slice middle part rest : Slice} (yields : middle.Yields part rest)
    (ends : middle.Ends slice) : slice.Yields part rest :=
  ⟨yields.within.trans ends.within, yields.ends.trans ends, yields.stop_le⟩

theorem Yields.leave {slice part middle rest : Slice} (yields : slice.Yields part middle)
    (ends : rest.Ends middle) : slice.Yields part rest :=
  ⟨yields.within, ends.trans yields.ends, Nat.le_trans yields.stop_le ends.start_le⟩

theorem readValue_yields (slice : Slice) : slice.Yields slice.readValue.1 slice.readValue.2 := by
  unfold readValue
  split
  · exact ((splitWhile_splits _ (slice.drop 1)).yields.leave (drop_ends 1 _)).of_ends
      (drop_ends 1 slice)
  · exact ((splitWhile_splits _ (slice.drop 1)).yields.leave (drop_ends 1 _)).of_ends
      (drop_ends 1 slice)
  · exact (splitWhile_splits _ slice).yields

end Slice

/-- Where the attribute starts: at its name. -/
def AttributeLexeme.start (attr : AttributeLexeme) : Nat :=
  attr.name.start

/-- Where the attribute stops: behind its value, or behind its name if it has none. -/
def AttributeLexeme.stop (attr : AttributeLexeme) : Nat :=
  (attr.value.getD attr.name).stop

/-- The attribute was read from `slice`, which leaves `rest`. -/
structure AttributeLexeme.ReadFrom (attr : AttributeLexeme) (slice rest : Slice) : Prop where
  name_within : attr.name.Within slice
  value_within : ∀ value, attr.value = some value → value.Within slice
  name_lt_value : ∀ value, attr.value = some value → attr.name.stop < value.start
  start_lt_stop : attr.start < attr.stop
  stop_le : attr.stop ≤ rest.start
  ends : rest.Ends slice

/-- An attribute is read in order, and is not empty. -/
theorem Slice.readAttribute_readFrom {slice : Slice} {c : Char} {rest : List Char}
    (front : slice.chars = c :: rest) (starts : isAttributeNameChar c = true ∨ c = '=') :
    slice.readAttribute.1.ReadFrom slice slice.readAttribute.2 := by
  have name := splitWhile_splits isAttributeNameChar slice
  have gapEnds := skipBlanks_ends (slice.splitWhile isAttributeNameChar).2
  unfold readAttribute
  simp only
  split
  · rename_i tail gapFront
    have behind := start_lt_start_drop_one gapFront
    have valueEnds := (skipBlanks_ends _).trans
      ((drop_ends 1 _).trans (gapEnds.trans name.ends))
    have read := readValue_yields
      (((slice.splitWhile isAttributeNameChar).2.skipBlanks.drop 1).skipBlanks)
    have nameLt : (slice.splitWhile isAttributeNameChar).1.stop <
        (((slice.splitWhile isAttributeNameChar).2.skipBlanks.drop
          1).skipBlanks).readValue.1.start := by
      have first := gapEnds.start_le
      have second := (skipBlanks_ends
        ((slice.splitWhile isAttributeNameChar).2.skipBlanks.drop 1)).start_le
      have third := read.within.start_le
      rw [← name.next]
      omega
    refine ⟨name.within, ?_, ?_, ?_, read.stop_le, read.ends.trans valueEnds⟩
    · rintro value ⟨⟩
      exact read.within.trans valueEnds.within
    · rintro value ⟨⟩
      exact nameLt
    · exact Nat.lt_of_le_of_lt (start_le_stop _) (Nat.lt_of_lt_of_le nameLt (start_le_stop _))
  · rename_i noEquals
    refine ⟨name.within, by simp, by simp, ?_, Nat.le_of_eq name.next.symm, name.ends⟩
    apply start_lt_stop
    rcases starts with kept | rfl
    · rw [chars_splitWhile_fst, front, List.takeWhile_cons_of_pos kept]
      exact List.cons_ne_nil _ _
    · -- an equals sign in front would have been read as one
      have gapFront : (slice.splitWhile isAttributeNameChar).2.skipBlanks.chars = '=' :: rest := by
        simp [skipBlanks, chars_splitWhile_snd, front, isAttributeNameChar, Text.isBlank]
      exact absurd gapFront (noEquals rest)

/-! ## Opening tags -/

/-- Spans follow each other between two bounds; none is empty and none reaches into the next. -/
def InOrder : Nat → List (Nat × Nat) → Nat → Prop
  | lower, [], upper => lower ≤ upper
  | lower, (start, stop) :: spans, upper => lower ≤ start ∧ start < stop ∧ InOrder stop spans upper

theorem InOrder.weaken {lower lower' : Nat} {spans : List (Nat × Nat)} {upper : Nat}
    (ordered : InOrder lower spans upper) (lowerLe : lower' ≤ lower) :
    InOrder lower' spans upper := by
  cases spans with
  | nil => exact Nat.le_trans lowerLe ordered
  | cons span spans => exact ⟨Nat.le_trans lowerLe ordered.1, ordered.2⟩

theorem InOrder.le_upper {lower upper upper' : Nat} {spans : List (Nat × Nat)}
    (ordered : InOrder lower spans upper) (upperLe : upper ≤ upper') :
    InOrder lower spans upper' := by
  induction spans generalizing lower with
  | nil => exact Nat.le_trans ordered upperLe
  | cons span spans ih => exact ⟨ordered.1, ordered.2.1, ih ordered.2.2⟩

theorem InOrder.le {lower upper : Nat} {spans : List (Nat × Nat)}
    (ordered : InOrder lower spans upper) : lower ≤ upper := by
  induction spans generalizing lower with
  | nil => exact ordered
  | cons span spans ih =>
      obtain ⟨begins, nonempty, more⟩ := ordered
      exact Nat.le_trans begins (Nat.le_trans (Nat.le_of_lt nonempty) (ih more))

theorem InOrder.stop_le {lower upper : Nat} {spans : List (Nat × Nat)}
    (ordered : InOrder lower spans upper) : ∀ span ∈ spans, span.2 ≤ upper := by
  induction spans generalizing lower with
  | nil => exact fun span mem => nomatch mem
  | cons first spans ih =>
      obtain ⟨-, -, more⟩ := ordered
      exact List.forall_mem_cons.mpr ⟨more.le, ih more⟩

/-- The bounds of an attribute. -/
def AttributeLexeme.span (attr : AttributeLexeme) : Nat × Nat :=
  (attr.start, attr.stop)

/-- Behind the name of an opening tag, `slice` holds attributes and the end of
the tag, and leaves `rest`. -/
inductive ReadsBody : Slice → List AttributeLexeme → Bool → Slice → Prop where
  | unended {slice : Slice} (front : slice.skipBlanks.chars = []) :
      ReadsBody slice [] false slice.skipBlanks
  | ended {slice : Slice} {rest : List Char} (front : slice.skipBlanks.chars = '>' :: rest) :
      ReadsBody slice [] false (slice.skipBlanks.drop 1)
  | selfClosed {slice : Slice} {rest : List Char}
      (front : slice.skipBlanks.chars = '/' :: '>' :: rest) :
      ReadsBody slice [] true (slice.skipBlanks.drop 2)
  | slash {slice last : Slice} {rest : List Char} {attributes : List AttributeLexeme}
      {selfClosing : Bool} (front : slice.skipBlanks.chars = '/' :: rest)
      (goesOn : rest.head? ≠ some '>')
      (more : ReadsBody (slice.skipBlanks.drop 1) attributes selfClosing last) :
      ReadsBody slice attributes selfClosing last
  | attr {slice last : Slice} {c : Char} {rest : List Char} {attributes : List AttributeLexeme}
      {selfClosing : Bool} (front : slice.skipBlanks.chars = c :: rest)
      (starts : isAttributeNameChar c = true ∨ c = '=')
      (more : ReadsBody slice.skipBlanks.readAttribute.2 attributes selfClosing last) :
      ReadsBody slice (slice.skipBlanks.readAttribute.1 :: attributes) selfClosing last

/-- What is neither a blank nor the end of a tag nor a slash starts an attribute. -/
theorem starts_attribute {c : Char} (notBlank : Text.isBlank c = false) (notEnd : c ≠ '>')
    (notSlash : c ≠ '/') : isAttributeNameChar c = true ∨ c = '=' := by
  by_cases equalsSign : c = '='
  · exact Or.inr equalsSign
  · exact Or.inl (by simp [isAttributeNameChar, notBlank, equalsSign, notEnd, notSlash])

/-- The loop over the attributes goes by the rules. -/
theorem Slice.readAttributes_readsBody (slice : Slice) (found : List AttributeLexeme) :
    ∃ attributes, (slice.readAttributes found).attributes = found.reverse ++ attributes ∧
      ReadsBody slice attributes (slice.readAttributes found).selfClosing
        (slice.readAttributes found).rest := by
  fun_induction Slice.readAttributes slice found with
  | case1 slice found front => exact ⟨[], by simp, .unended front⟩
  | case2 slice found rest front => exact ⟨[], by simp, .ended front⟩
  | case3 slice found rest closed front slashed =>
      obtain ⟨rest', rfl⟩ := List.head?_eq_some_iff.mp closed
      exact ⟨[], by simp, .selfClosed front⟩
  | case4 slice found rest open_ front slashed ih =>
      obtain ⟨attributes, same, reads⟩ := ih
      exact ⟨attributes, same, .slash front open_ reads⟩
  | case5 slice found c rest front unended unslashed ih =>
      obtain ⟨attributes, same, reads⟩ := ih
      have notBlank := not_isBlank_of_skipBlanks front
      refine ⟨slice.skipBlanks.readAttribute.1 :: attributes, ?_,
        .attr front (starts_attribute notBlank unended unslashed) reads⟩
      rw [same, List.reverse_cons, List.append_assoc, List.singleton_append]

namespace ReadsBody

variable {slice rest : Slice} {attributes : List AttributeLexeme} {selfClosing : Bool}

theorem ends (reads : ReadsBody slice attributes selfClosing rest) : rest.Ends slice := by
  induction reads with
  | @unended slice front => exact slice.skipBlanks_ends
  | @ended slice _ front => exact (Slice.drop_ends 1 _).trans slice.skipBlanks_ends
  | @selfClosed slice _ front => exact (Slice.drop_ends 2 _).trans slice.skipBlanks_ends
  | @slash slice _ _ _ _ front goesOn more ih =>
      exact ih.trans ((Slice.drop_ends 1 _).trans slice.skipBlanks_ends)
  | @attr slice _ _ _ _ _ front starts more ih =>
      exact ih.trans ((Slice.readAttribute_readFrom front starts).ends.trans slice.skipBlanks_ends)

/-- Every slice of every attribute is part of what was read. -/
theorem within (reads : ReadsBody slice attributes selfClosing rest) :
    ∀ attr ∈ attributes, attr.name.Within slice ∧
      ∀ value, attr.value = some value → value.Within slice ∧ attr.name.stop < value.start := by
  induction reads with
  | unended front => simp
  | ended front => simp
  | selfClosed front => simp
  | @slash slice _ _ _ _ front goesOn more ih =>
      intro attr mem
      obtain ⟨name, value⟩ := ih attr mem
      have outer := ((Slice.drop_ends 1 _).trans slice.skipBlanks_ends).within
      exact ⟨name.trans outer, fun v eq => ⟨(value v eq).1.trans outer, (value v eq).2⟩⟩
  | @attr slice _ _ _ _ _ front starts more ih =>
      have read := Slice.readAttribute_readFrom front starts
      have blanks := slice.skipBlanks_ends.within
      intro attr mem
      rcases List.mem_cons.mp mem with rfl | later
      · exact ⟨read.name_within.trans blanks,
          fun v eq => ⟨(read.value_within v eq).trans blanks, read.name_lt_value v eq⟩⟩
      · obtain ⟨name, value⟩ := ih attr later
        have outer := (read.ends.trans slice.skipBlanks_ends).within
        exact ⟨name.trans outer, fun v eq => ⟨(value v eq).1.trans outer, (value v eq).2⟩⟩

/-- The attributes stand in order in front of the end of the tag. If the tag closes itself, its
end is a slash and a bracket, and the slash belongs to no attribute. -/
theorem exists_end (reads : ReadsBody slice attributes selfClosing rest) :
    ∃ mark : Slice, mark.Ends slice ∧ rest.Ends mark ∧
      InOrder slice.start (attributes.map AttributeLexeme.span) mark.start ∧
      (selfClosing = true → mark.chars = '/' :: '>' :: rest.chars) := by
  induction reads with
  | @unended slice front =>
      exact ⟨slice.skipBlanks, slice.skipBlanks_ends, Slice.Ends.refl _,
        slice.skipBlanks_ends.start_le, by simp⟩
  | @ended slice _ front =>
      exact ⟨slice.skipBlanks, slice.skipBlanks_ends, Slice.drop_ends 1 _,
        slice.skipBlanks_ends.start_le, by simp⟩
  | @selfClosed slice _ front =>
      refine ⟨slice.skipBlanks, slice.skipBlanks_ends, Slice.drop_ends 2 _,
        slice.skipBlanks_ends.start_le, fun _ => ?_⟩
      simp [Slice.drop, Slice.splitAt, front]
  | @slash slice _ _ _ _ front goesOn more ih =>
      obtain ⟨mark, markEnds, restEnds, ordered, closes⟩ := ih
      have outer := (Slice.drop_ends 1 slice.skipBlanks).trans slice.skipBlanks_ends
      exact ⟨mark, markEnds.trans outer, restEnds, ordered.weaken outer.start_le, closes⟩
  | @attr slice _ _ _ _ _ front starts more ih =>
      obtain ⟨mark, markEnds, restEnds, ordered, closes⟩ := ih
      have read := Slice.readAttribute_readFrom front starts
      refine ⟨mark, markEnds.trans (read.ends.trans slice.skipBlanks_ends), restEnds, ?_, closes⟩
      refine ⟨?_, read.start_lt_stop, ordered.weaken read.stop_le⟩
      exact Nat.le_trans slice.skipBlanks_ends.start_le read.name_within.start_le

end ReadsBody

/-! ## What a text begins with -/

namespace Lead

variable {chars : List Char}

theorem exists_of_eq_comment (lead : Lead.of chars = .comment) :
    ∃ rest, chars = '<' :: '!' :: '-' :: '-' :: rest := by
  unfold Lead.of at lead
  split at lead
  · exact ⟨_, rfl⟩
  · contradiction
  · split at lead <;> contradiction
  · split at lead <;> contradiction
  · contradiction

theorem exists_of_eq_closing (lead : Lead.of chars = .closing) :
    ∃ c rest, chars = '<' :: '/' :: c :: rest ∧ c.isAlpha = true := by
  unfold Lead.of at lead
  split at lead
  · cases lead
  · cases lead
  · split at lead
    · rename_i letter
      exact ⟨_, _, rfl, letter⟩
    · cases lead
  · split at lead <;> cases lead
  · cases lead

theorem exists_of_eq_opening (lead : Lead.of chars = .opening) :
    ∃ c rest, chars = '<' :: c :: rest ∧ c.isAlpha = true := by
  unfold Lead.of at lead
  split at lead
  · cases lead
  · cases lead
  · split at lead <;> cases lead
  · split at lead
    · rename_i letter
      exact ⟨_, _, rfl, letter⟩
    · cases lead
  · cases lead

theorem of_closing {c : Char} {rest : List Char} (letter : c.isAlpha = true) :
    Lead.of ('<' :: '/' :: c :: rest) = .closing := by
  simp [Lead.of, letter]

theorem of_opening {c : Char} {rest : List Char} (letter : c.isAlpha = true) :
    Lead.of ('<' :: c :: rest) = .opening := by
  rw [Lead.of.eq_def]
  split
  · rename_i same
    cases same
    cases letter
  · rename_i same
    cases same
    cases letter
  · rename_i same
    cases same
    cases letter
  · rename_i same
    cases same
    exact if_pos letter
  · rename_i other
    exact absurd rfl (other c rest)

theorem of_text {c : Char} {rest : List Char} (plain : c ≠ '<') : Lead.of (c :: rest) = .text := by
  rw [Lead.of.eq_def]
  split
  · rename_i same
    exact absurd (List.cons.inj same).1 plain
  · rename_i same
    exact absurd (List.cons.inj same).1 plain
  · rename_i same
    exact absurd (List.cons.inj same).1 plain
  · rename_i same
    exact absurd (List.cons.inj same).1 plain
  · rfl

theorem of_declaration {rest : List Char} (uncommented : ¬ ['-', '-'] <+: rest) :
    Lead.of ('<' :: '!' :: rest) = .doctype := by
  rw [Lead.of.eq_def]
  split
  · rename_i more same
    cases same
    exact absurd ⟨more, rfl⟩ uncommented
  · rfl
  · rename_i same
    cases same
  · rename_i notMark _ same
    cases same
    exact absurd rfl notMark
  · rename_i other
    exact absurd rfl (other _ _)

theorem of_doctype {body tail : List Char} (uncommented : ¬ ['-', '-'] <+: body) :
    Lead.of ('<' :: '!' :: (body ++ '>' :: tail)) = .doctype := by
  apply of_declaration
  rintro ⟨rest, same⟩
  rcases body with _ | ⟨c, _ | ⟨d, more⟩⟩
  · simp at same
  · simp at same
  · simp only [List.cons_append, List.nil_append, List.cons.injEq] at same
    obtain ⟨rfl, rfl, -⟩ := same
    exact uncommented ⟨more, rfl⟩

/-- What a text begins with, by what it starts with. -/
theorem of_eq (chars : List Char) :
    Lead.of chars =
      if ['<', '!', '-', '-'].isPrefixOf chars then .comment
      else if ['<', '!'].isPrefixOf chars then .doctype
      else if ['<', '/'].isPrefixOf chars && (chars.drop 2).head?.any Char.isAlpha then .closing
      else if ['<'].isPrefixOf chars && (chars.drop 1).head?.any Char.isAlpha then .opening
      else .text := by
  rcases chars with _ | ⟨first, rest⟩
  · rfl
  by_cases bracket : first = '<'
  · subst bracket
    rcases rest with _ | ⟨second, rest⟩
    · rfl
    by_cases mark : second = '!'
    · subst mark
      by_cases dashes : ['-', '-'] <+: rest
      · obtain ⟨rest, rfl⟩ := dashes
        rfl
      · have plain : ¬ ['-', '-'].isPrefixOf rest = true := mt List.isPrefixOf_iff_prefix.mp dashes
        rw [of_declaration dashes, eq_comm]
        exact if_neg plain
    · by_cases slash : second = '/'
      · subst slash
        cases rest with
        | nil => rfl
        | cons c rest => simp [Lead.of]
      · simp [Lead.of, mark, slash, Ne.symm mark, Ne.symm slash]
  · simp [of_text bracket, Ne.symm bracket]

end Lead

/-- A letter can stand in the name of a tag. -/
theorem isTagNameChar_of_isAlpha {c : Char} (letter : c.isAlpha = true) :
    isTagNameChar c = true := by
  have other : ∀ d : Char, d.isAlpha = false → c ≠ d := by
    rintro d notLetter rfl
    exact Bool.noConfusion (letter.symm.trans notLetter)
  simp [isTagNameChar, Text.isBlank, other ' ' rfl, other '\t' rfl, other '\n' rfl,
    other '\x0c' rfl, other '\r' rfl, other '/' rfl, other '>' rfl]

/-- The opening tag was read from `slice`, which leaves `rest`. -/
structure OpeningLexeme.ReadFrom (tag : OpeningLexeme) (slice rest : Slice) : Prop where
  read : slice.readOpening = (tag, rest)
  start : tag.start = slice.start
  stop : tag.stop = rest.start
  name_start : tag.name.start = slice.start + 1
  name_ne_nil : tag.name.chars ≠ []
  body : ∃ body : Slice, slice.chars = '<' :: (tag.name.chars ++ body.chars) ∧
    body.start = tag.name.stop ∧ ReadsBody body tag.attributes tag.selfClosing rest

theorem Slice.readOpening_readFrom {slice : Slice} (lead : Lead.of slice.chars = .opening) :
    slice.readOpening.1.ReadFrom slice slice.readOpening.2 := by
  obtain ⟨c, rest, front, letter⟩ := Lead.exists_of_eq_opening lead
  have name := splitWhile_splits isTagNameChar (slice.drop 1)
  have dropped : (slice.drop 1).chars = c :: rest := by simp [drop, splitAt, front]
  obtain ⟨attributes, same, reads⟩ :=
    readAttributes_readsBody ((slice.drop 1).splitWhile isTagNameChar).2 []
  refine ⟨rfl, rfl, rfl, start_drop_one front, ?_, ((slice.drop 1).splitWhile isTagNameChar).2, ?_,
    name.next, ?_⟩
  · change ((slice.drop 1).splitWhile isTagNameChar).1.chars ≠ []
    rw [chars_splitWhile_fst, dropped,
      List.takeWhile_cons_of_pos (isTagNameChar_of_isAlpha letter)]
    exact List.cons_ne_nil _ _
  · change slice.chars = '<' :: (((slice.drop 1).splitWhile isTagNameChar).1.chars ++ _)
    rw [← name.chars, dropped, front]
  · simp only [List.reverse_nil, List.nil_append] at same
    rw [← same] at reads
    exact reads

theorem Slice.readFrom_of_readOpening {slice inner : Slice} {tag : OpeningLexeme}
    (lead : Lead.of slice.chars = .opening) (read : slice.readOpening = (tag, inner)) :
    tag.ReadFrom slice inner := by
  have readFrom := readOpening_readFrom lead
  rwa [read] at readFrom

namespace OpeningLexeme.ReadFrom

variable {tag : OpeningLexeme} {slice rest : Slice}

theorem exists_body (read : tag.ReadFrom slice rest) :
    ∃ body : Slice, body.Ends slice ∧ body.start = tag.name.stop ∧
      ReadsBody body tag.attributes tag.selfClosing rest := by
  obtain ⟨body, chars, start, reads⟩ := read.body
  refine ⟨body, ⟨'<' :: tag.name.chars, by simp [chars], ?_⟩, start, reads⟩
  rw [start, Slice.stop, read.name_start, byteSize_cons, ← Nat.add_assoc]
  rfl

theorem ends (read : tag.ReadFrom slice rest) : rest.Ends slice := by
  obtain ⟨body, bodyEnds, -, reads⟩ := read.exists_body
  exact reads.ends.trans bodyEnds

theorem name_within (read : tag.ReadFrom slice rest) : tag.name.Within slice := by
  obtain ⟨body, chars, -, -⟩ := read.body
  exact ⟨['<'], body.chars, by simp [chars], by rw [read.name_start]; rfl⟩

theorem start_lt_stop (read : tag.ReadFrom slice rest) : tag.start < tag.stop := by
  obtain ⟨body, -, bodyStart, reads⟩ := read.exists_body
  have nameEnd := tag.name.start_le_stop
  have bodyEnd := reads.ends.start_le
  rw [read.start, read.stop]
  rw [read.name_start] at nameEnd
  omega

end OpeningLexeme.ReadFrom

/-! ## Whole texts -/

theorem Slice.next_ends {slice : Slice} : slice.next.2.Ends slice := by
  unfold next
  split
  · exact slice.readComment_splits.ends
  · exact (slice.splitThrough_splits _).ends
  · exact slice.readClosing_splits.ends
  · rename_i lead
    have tagEnds := (readOpening_readFrom lead).ends
    simp only
    split
    · exact (cut_splits _ _).ends.trans tagEnds
    · exact tagEnds
  · exact slice.readText_splits.ends

/-- What holds of the empty text, and of a text if it holds behind its first
lexemes, holds of all texts. -/
theorem scan_induction {motive : Slice → Prop} (done : ∀ slice, slice.chars = [] → motive slice)
    (step : ∀ slice, slice.chars ≠ [] → motive slice.next.2 → motive slice) (slice : Slice) :
    motive slice := by
  induction size : slice.length using Nat.strongRecOn generalizing slice with
  | ind size ih =>
      subst size
      by_cases unread : slice.chars = []
      · exact done slice unread
      · exact step slice unread (ih _ (Slice.length_next_lt unread) _ rfl)

end MarkupLint.Markup
