import MarkupLint.Proofs.Markup.Checked.Scanner
import MarkupLint.Proofs.Markup.Layout

/-!
# Reading by byte offsets reads the same

A reader that goes by byte offsets, started where a slice that ends the text starts, finds all it
relies on, moves on with every round of its loops, and reads what the reader of slices reads. What
it gives and where it stops is said by `Succeeds`, which also keeps the cursor sound; so the
readers can be put together as they are in the scanner, whatever positions were asked for before.
-/

namespace MarkupLint.Markup

/-! ## Cuts -/

/-- Two ends of a slice with the same characters are one. -/
theorem Slice.Ends.ext {first second slice : Slice} (firstEnds : first.Ends slice)
    (secondEnds : second.Ends slice) (chars : first.chars = second.chars) : first = second := by
  have stops : first.stop = second.stop := firstEnds.stop_eq.trans secondEnds.stop_eq.symm
  rw [stop, stop, chars] at stops
  cases first
  cases second
  simp_all

theorem Slice.Ends.length_lt {last slice : Slice} (ends : last.Ends slice)
    (forwards : slice.start < last.start) : last.length < slice.length := by
  obtain ⟨before, chars, start⟩ := ends
  have nonempty : before ≠ [] := byteSize_pos_iff.mp (by omega)
  have positive := List.length_pos_iff.mpr nonempty
  rw [length, length, chars, List.length_append]
  omega

/-- A cut that can only fall where a coarser one does may start from the coarser one. -/
theorem cutBefore_of_imp {stop coarse : List Char → Bool}
    (implies : ∀ chars, stop chars = true → coarse chars = true) (chars : List Char) :
    (cutBefore stop chars).2 = (cutBefore stop (cutBefore coarse chars).2).2 := by
  induction chars with
  | nil => rfl
  | cons c rest ih =>
      rw [cutBefore_cons coarse]
      split
      · rfl
      · rename_i passes
        rw [cutBefore_cons stop, if_neg (mt (implies _) passes)]
        exact ih

/-- A cut that falls at none of the first characters may start behind them. -/
theorem cutBefore_drop {stop : List Char → Bool} {chars : List Char} {count : Nat}
    (passes : ∀ place < count, stop (chars.drop place) = false) :
    (cutBefore stop chars).2 = (cutBefore stop (chars.drop count)).2 := by
  induction count generalizing chars with
  | zero => rfl
  | succ count ih =>
      cases chars with
      | nil => rfl
      | cons c rest =>
          have first : ¬ stop (c :: rest) = true := by
            rw [Bool.not_eq_true]
            exact passes 0 (Nat.succ_pos count)
          rw [cutBefore_cons, if_neg first, List.drop_succ_cons]
          apply ih
          intro place less
          exact passes (place + 1) (Nat.succ_lt_succ less)

namespace Slice

theorem cut_of_imp {stop coarse : List Char → Bool}
    (implies : ∀ chars, stop chars = true → coarse chars = true) (slice : Slice) :
    (slice.cut stop).2 = ((slice.cut coarse).2.cut stop).2 :=
  (slice.cut_splits stop).ends.ext
    (((slice.cut coarse).2.cut_splits stop).ends.trans (slice.cut_splits coarse).ends)
    (cutBefore_of_imp implies slice.chars)

theorem cut_drop {stop : List Char → Bool} {slice : Slice} {count : Nat}
    (passes : ∀ place < count, stop (slice.chars.drop place) = false) :
    (slice.cut stop).2 = ((slice.drop count).cut stop).2 :=
  (slice.cut_splits stop).ends.ext
    (((slice.drop count).cut_splits stop).ends.trans (drop_ends count slice))
    (cutBefore_drop passes)

/-- What a cut leaves, if anything, passes the test. -/
theorem cut_passes {test : List Char → Bool} {slice : Slice}
    (left : (slice.cut test).2.chars ≠ []) : test (slice.cut test).2.chars = true := by
  obtain ⟨c, rest, front⟩ := List.exists_cons_of_ne_nil left
  rw [front]
  exact cutBefore_snd_eq_cons front

theorem cut_of_stop {stop : List Char → Bool} {slice : Slice} (stops : stop slice.chars = true)
    (unread : slice.chars ≠ []) : (slice.cut stop).2 = slice := by
  refine (slice.cut_splits stop).ends.ext (Ends.refl slice) ?_
  obtain ⟨c, rest, front⟩ := List.exists_cons_of_ne_nil unread
  rw [front] at stops
  change (cutBefore stop slice.chars).2 = slice.chars
  rw [front, cutBefore_cons, if_pos stops]

theorem cut_of_nil {stop : List Char → Bool} {slice : Slice} (done : slice.chars = []) :
    (slice.cut stop).2 = slice := by
  refine (slice.cut_splits stop).ends.ext (Ends.refl slice) ?_
  change (cutBefore stop slice.chars).2 = slice.chars
  rw [done]
  rfl

theorem start_eq_stop {slice : Slice} (done : slice.chars = []) : slice.start = slice.stop := by
  rw [stop, done]
  rfl

end Slice

namespace Checked

variable {text : String} {α β : Type}

/-! ## Computations that succeed -/

/-- From every sound cursor over the text, the computation gives `result` and
leaves a sound cursor. -/
def Succeeds (text : String) (action : Checked α) (result : α) : Prop :=
  ∀ cursor : Cursor, cursor.Sound text →
    ∃ next, action.run cursor = .ok (result, next) ∧ next.Sound text

theorem Succeeds.pure (result : α) : Succeeds text (pure result : Checked α) result :=
  fun cursor sound => ⟨cursor, rfl, sound⟩

theorem Succeeds.bind {action : Checked α} {next : α → Checked β} {middle : α} {result : β}
    (first : Succeeds text action middle) (second : Succeeds text (next middle) result) :
    Succeeds text (action >>= next) result := by
  intro cursor sound
  obtain ⟨cursor', done, sound'⟩ := first cursor sound
  obtain ⟨cursor'', done', sound''⟩ := second cursor' sound'
  refine ⟨cursor'', ?_, sound''⟩
  rw [StateT.run_bind, done]
  exact done'

theorem Succeeds.lift {given : Except Fault α} {result : α} (done : given = .ok result) :
    Succeeds text (liftM given : Checked α) result := by
  intro cursor sound
  refine ⟨cursor, ?_, sound⟩
  rw [done]
  rfl

theorem succeeds_positionAt {offset : Nat} (boundary : Boundary text.toList offset) :
    Succeeds text (positionAt offset) (Position.ofOffset text.toList offset) := by
  intro cursor sound
  refine ⟨cursor.moveTo offset, ?_, sound.moveTo boundary⟩
  have located : locate cursor offset = .ok (Position.ofOffset text.toList offset) := by
    rw [locate_eq sound boundary, sound.find_eq boundary]
  simp only [positionAt, StateT.run_bind, StateT.run_get, StateT.run_monadLift, pure_bind, located]
  rw [Cursor.moveTo, sound.find_eq boundary]
  rfl

theorem succeeds_token {part : Slice} (within : part.Within (Slice.ofText text)) :
    Succeeds text (token text part.start part.stop) (part.token text) :=
  (Succeeds.lift (between_eq within)).bind ((succeeds_positionAt within.boundary.1).bind
    ((succeeds_positionAt within.boundary.2).bind (Succeeds.pure _)))

/-- The token of what was split off. -/
theorem succeeds_token_of_splits {slice part rest : Slice} (ends : slice.Ends (Slice.ofText text))
    (splits : slice.Splits part rest) :
    Succeeds text (token text slice.start rest.start) (part.token text) := by
  rw [splits.next, ← splits.start]
  exact succeeds_token (splits.within.trans ends.within)

theorem succeeds_closeInner {stop : Nat} (boundary : Boundary text.toList stop) (builder : Builder)
    (closing : Option Token) :
    Succeeds text (closeInner builder closing stop)
      (builder.closeInner closing (Position.ofOffset text.toList stop)) := by
  unfold closeInner
  split
  · rename_i none
    rw [Builder.closeInner, none]
    exact Succeeds.pure builder
  · exact (succeeds_positionAt boundary).bind (Succeeds.pure _)

theorem succeeds_cutOff {stop : Nat} (boundary : Boundary text.toList stop) (builder : Builder)
    (count : Nat) :
    Succeeds text (cutOff builder stop count)
      (builder.cutOff (Position.ofOffset text.toList stop) count) := by
  induction count generalizing builder with
  | zero => exact Succeeds.pure builder
  | succ count ih => exact (succeeds_closeInner boundary builder none).bind (ih _)

/-! ## Comments, declarations and text -/

theorem isPrefixOf_commentEnd : ['-', '-', '>'].isPrefixOf = endsComment := by
  funext chars
  rw [endsComment.eq_def]
  split
  · rfl
  · rename_i other
    rw [← Bool.not_eq_true, List.isPrefixOf_iff_prefix]
    rintro ⟨rest, rfl⟩
    exact other rest rfl

theorem isPrefixOf_singleton (c : Char) : [c].isPrefixOf = startsOutside fun d => !(d == c) := by
  funext chars
  cases chars with
  | nil => rfl
  | cons d rest =>
      rw [startsOutside, Bool.not_not, List.isPrefixOf_cons_cons, List.isPrefixOf_nil_left,
        Bool.and_true, Bool.beq_comm]

theorem succeeds_readComment {slice : Slice} (ends : slice.Ends (Slice.ofText text))
    (lead : Lead.of slice.chars = .comment) (builder : Builder) :
    Succeeds text (readComment text slice.start builder)
      (slice.readComment.2.start, builder.push (.comment (slice.readComment.1.token text))) := by
  obtain ⟨rest, front⟩ := Lead.exists_of_eq_comment lead
  have body : (slice.drop 4).start = slice.start + 4 := by
    rw [Slice.drop, Slice.splitAt, front]
    rfl
  have stop : findThrough text ['-', '-', '>'] (slice.start + 4) =
      .ok slice.readComment.2.start := by
    rw [← body, findThrough_eq ((Slice.drop_ends 4 slice).trans ends), isPrefixOf_commentEnd]
    rfl
  exact (Succeeds.lift stop).bind
    ((succeeds_token_of_splits ends slice.readComment_splits).bind (Succeeds.pure _))

theorem succeeds_readDoctype {slice : Slice} (ends : slice.Ends (Slice.ofText text))
    (builder : Builder) :
    Succeeds text (readDoctype text slice.start builder)
      ((slice.splitThrough (· == '>')).2.start,
        builder.push (.doctype ((slice.splitThrough (· == '>')).1.token text))) := by
  have stop :
      findThrough text ['>'] slice.start = .ok (slice.splitThrough (· == '>')).2.start := by
    rw [findThrough_eq ends, isPrefixOf_singleton]
    rfl
  exact (Succeeds.lift stop).bind
    ((succeeds_token_of_splits ends (slice.splitThrough_splits _)).bind (Succeeds.pure _))

theorem uniform_isAlpha : Uniform Char.isAlpha false := by
  intro c large
  rw [← Bool.not_eq_true]
  intro letter
  exact absurd (Text.toNat_lt_of_isAlpha letter) (Nat.not_lt.mpr large)

theorem uniform_startsMarkup : Uniform startsMarkup false := by
  intro c large
  have notSlash : c ≠ '/' := ne_of_toNat large
  have notMark : c ≠ '!' := ne_of_toNat large
  simp [startsMarkup, uniform_isAlpha c large, notSlash, notMark]

theorem endsText_cons (rest : List Char) :
    endsText ('<' :: rest) = rest.head?.any startsMarkup := by
  cases rest <;> rfl

theorem isPrefixOf_of_endsText (chars : List Char) (ends : endsText chars = true) :
    ['<'].isPrefixOf chars = true := by
  unfold endsText at ends
  split at ends
  · rfl
  · cases ends

/-- The byte at the start of a slice passes a test as the first character does. -/
theorem any_peek {slice : Slice} (ends : slice.Ends (Slice.ofText text)) {test : Char → Bool}
    {value : Bool} (uniform : Uniform test value) :
    (peek text slice.start).any test = slice.chars.head?.any test := by
  rw [peek_eq ends]
  cases slice.chars with
  | nil => rfl
  | cons c rest => exact uniform.front c

theorem advances_of_ends {slice rest : Slice} (ends : slice.Ends (Slice.ofText text))
    (restEnds : rest.Ends slice) {pos : Nat} (forwards : pos < rest.start) :
    Advances text pos rest.start := by
  refine ⟨forwards, ?_⟩
  rw [utf8ByteSize_eq_stop (restEnds.trans ends)]
  exact rest.start_le_stop

/-- The search for the end of a text passes over brackets, one after the
other, and finds the first that may start markup. -/
theorem textEnd_eq {slice : Slice} (ends : slice.Ends (Slice.ofText text)) :
    textEnd text slice.start = .ok (slice.cut endsText).2.start := by
  induction size : slice.length using Nat.strongRecOn generalizing slice with
  | ind size ih =>
      subst size
      have coarse := Slice.cut_of_imp isPrefixOf_of_endsText slice
      have restEnds := (slice.cut_splits ['<'].isPrefixOf).ends
      rw [textEnd, find_eq ends, coarse]
      generalize found : (slice.cut ['<'].isPrefixOf).2 = rest at restEnds ⊢
      simp only [bind, Except.bind]
      cases front : rest.chars with
      | nil =>
          rw [Slice.cut_of_nil front, Slice.start_eq_stop front,
            ← utf8ByteSize_eq_stop (restEnds.trans ends)]
          rfl
      | cons c tail =>
          have prefixed : ['<'].isPrefixOf (c :: tail) = true := by
            rw [← front, ← found]
            apply Slice.cut_passes
            rw [found, front]
            exact List.cons_ne_nil c tail
          obtain rfl : '<' = c :=
            (List.cons_prefix_cons.mp (List.isPrefixOf_iff_prefix.mp prefixed)).1
          have next : (rest.drop 1).start = rest.start + 1 := Slice.start_drop_one front
          have nextChars : (rest.drop 1).chars = tail := by
            rw [Slice.drop, Slice.splitAt, front]; rfl
          have nextEnds := (Slice.drop_ends 1 rest).trans restEnds
          have test := any_peek (nextEnds.trans ends) uniform_startsMarkup
          rw [next, nextChars, ← endsText_cons] at test
          simp only [List.isEmpty_cons, Bool.false_eq_true, if_false]
          by_cases stops : endsText ('<' :: tail) = true
          · rw [if_pos (test.trans stops),
              Slice.cut_of_stop (front ▸ stops) (front ▸ List.cons_ne_nil _ _)]
            rfl
          · have forwards : slice.start < (rest.drop 1).start := by
              rw [next]
              exact Nat.lt_succ_of_le restEnds.start_le
            have later := ih _ (nextEnds.length_lt forwards) (nextEnds.trans ends) rfl
            have goesOn : (rest.cut endsText).2 = ((rest.drop 1).cut endsText).2 := by
              apply Slice.cut_drop
              intro place less
              obtain rfl := Nat.lt_one_iff.mp less
              rw [List.drop_zero, front]
              exact Bool.eq_false_iff.mpr stops
            rw [if_neg (test ▸ stops), goesOn, ← later, ← next,
              dif_pos (advances_of_ends ends nextEnds forwards)]

theorem succeeds_readText {slice : Slice} (ends : slice.Ends (Slice.ofText text))
    (unread : slice.chars ≠ []) (builder : Builder) :
    Succeeds text (readText text slice.start builder)
      (slice.readText.2.start, builder.push (.text (slice.readText.1.token text))) := by
  obtain ⟨c, rest, front⟩ := List.exists_cons_of_ne_nil unread
  have stop :
      textEnd text
        (slice.start + ((String.ofList slice.chars).toList.head?.map Char.utf8Size).getD 1) =
      .ok slice.readText.2.start := by
    rw [String.toList_ofList, front, List.head?_cons, Option.map_some, Option.getD_some,
      ← Slice.start_drop_one front, textEnd_eq ((Slice.drop_ends 1 slice).trans ends)]
    rfl
  exact (Succeeds.lift (between_end ends)).bind ((Succeeds.lift stop).bind
    ((succeeds_token_of_splits ends slice.readText_splits).bind (Succeeds.pure _)))

/-! ## Tags -/

theorem uniform_isBlank : Uniform Text.isBlank false := by
  intro c large
  simp [Text.isBlank, ne_of_toNat large (d := ' '), ne_of_toNat large (d := '\t'),
    ne_of_toNat large (d := '\n'), ne_of_toNat large (d := '\x0c'), ne_of_toNat large (d := '\r')]

theorem uniform_ne {d : Char} (small : d.toNat < 0x80 := by decide) : Uniform (· != d) true := by
  intro c large
  exact bne_iff_ne.mpr (ne_of_toNat large small)

theorem uniform_isBareValueChar : Uniform isBareValueChar true := by
  intro c large
  simp [isBareValueChar, uniform_isBlank c large, ne_of_toNat large (d := '>')]

theorem uniform_isTagNameChar : Uniform isTagNameChar true := by
  intro c large
  simp [isTagNameChar, uniform_isBlank c large, ne_of_toNat large (d := '/'),
    ne_of_toNat large (d := '>')]

theorem uniform_isAttributeNameChar : Uniform isAttributeNameChar true := by
  intro c large
  simp [isAttributeNameChar, uniform_isBlank c large, ne_of_toNat large (d := '='),
    ne_of_toNat large (d := '>'), ne_of_toNat large (d := '/')]

theorem succeeds_readClosing {slice : Slice} (ends : slice.Ends (Slice.ofText text))
    {rest : List Char} (front : slice.chars = '<' :: '/' :: rest) (builder : Builder) :
    Succeeds text (readClosing text slice.start builder)
      (slice.readClosing.2.2.start,
        builder.take (.closing (slice.readClosing.1.token text)
          (slice.readClosing.2.1.token text))) := by
  have nameEnds := (Slice.drop_ends 2 slice).trans ends
  have nameSplits := (slice.drop 2).splitWhile_splits isTagNameChar
  have nameStart : (slice.drop 2).start = slice.start + 2 := by
    rw [Slice.drop, Slice.splitAt, front]
    rfl
  have nameStop : runEnd text isTagNameChar (slice.start + 2) =
      ((slice.drop 2).splitWhile isTagNameChar).2.start := by
    rw [← nameStart, runEnd_eq nameEnds uniform_isTagNameChar]
  have stop : findThrough text ['>'] (runEnd text isTagNameChar (slice.start + 2)) =
      .ok slice.readClosing.2.2.start := by
    rw [nameStop, findThrough_eq (nameSplits.ends.trans nameEnds), isPrefixOf_singleton]
    rfl
  have name : between text (slice.start + 2) (runEnd text isTagNameChar (slice.start + 2)) =
      .ok (String.ofList slice.readClosing.2.1.chars) := by
    rw [nameStop, nameSplits.next, ← nameStart]
    exact between_eq (slice.readClosing_name_within.trans ends.within)
  have nameToken : Succeeds text
      (token text (slice.start + 2) (runEnd text isTagNameChar (slice.start + 2)))
      (slice.readClosing.2.1.token text) := by
    rw [nameStop, ← nameStart]
    exact succeeds_token_of_splits nameEnds nameSplits
  have startBoundary := ends.within.boundary.1
  have stopBoundary := (slice.readClosing_splits.ends.trans ends).within.boundary.1
  refine (Succeeds.lift stop).bind ((Succeeds.lift name).bind ?_)
  have chars : (slice.readClosing.2.1.token text).chars =
      String.ofList slice.readClosing.2.1.chars := rfl
  have loc : (slice.readClosing.1.token text).loc = ⟨Position.ofOffset text.toList slice.start,
      Position.ofOffset text.toList slice.readClosing.2.2.start⟩ := by
    rw [slice.readClosing_splits.next]
    rfl
  rw [Builder.take, chars, loc]
  cases builder.depthOf? (String.ofList slice.readClosing.2.1.chars) with
  | none =>
      exact (succeeds_token_of_splits ends slice.readClosing_splits).bind (Succeeds.pure _)
  | some depth =>
      exact (succeeds_cutOff startBoundary builder depth).bind
        (nameToken.bind ((succeeds_closeInner stopBoundary _ _).bind (Succeeds.pure _)))

theorem utf8Size_of_lt {c : Char} (small : c.toNat < 0x80) : c.utf8Size = 1 := by
  rw [← String.length_utf8EncodeChar, Text.utf8EncodeChar_of_lt small]
  rfl

/-- The byte at the start of a slice is a character below 128 exactly if the
slice starts with it. -/
theorem peek_eq_some_iff {slice : Slice} (ends : slice.Ends (Slice.ofText text)) {d : Char}
    (small : d.toNat < 0x80 := by decide) :
    peek text slice.start = some d ↔ slice.chars.head? = some d := by
  rw [peek_eq ends]
  cases slice.chars with
  | nil => simp
  | cons c rest => simp [front_eq_iff small]

theorem succeeds_readQuoted {slice : Slice} (ends : slice.Ends (Slice.ofText text)) {quote : Char}
    (small : quote.toNat < 0x80 := by decide) :
    Succeeds text (readQuoted text quote slice.start)
      ((slice.splitWhile (· != quote)).1.token text,
        ((slice.splitWhile (· != quote)).2.drop 1).start) := by
  have splits := slice.splitWhile_splits (· != quote)
  have stop := runEnd_eq ends (uniform_ne small)
  have restEnds := splits.ends.trans ends
  have next : (if (slice.splitWhile (· != quote)).2.start < text.utf8ByteSize then
      (slice.splitWhile (· != quote)).2.start + 1 else (slice.splitWhile (· != quote)).2.start) =
      ((slice.splitWhile (· != quote)).2.drop 1).start := by
    rw [utf8ByteSize_eq_stop restEnds]
    cases left : (slice.splitWhile (· != quote)).2.chars with
    | nil =>
        rw [← Slice.start_eq_stop left, if_neg (Nat.lt_irrefl _), Slice.drop, Slice.splitAt, left]
        rfl
    | cons c tail =>
        have nonempty : (slice.splitWhile (· != quote)).2.chars ≠ [] :=
          left ▸ List.cons_ne_nil c tail
        have stops : c = quote := by
          have outside := cutBefore_snd_eq_cons left
          simpa [startsOutside] using outside
        rw [if_pos (Slice.start_lt_stop nonempty), Slice.start_drop_one left, stops,
          utf8Size_of_lt small]
  rw [readQuoted, stop, ← next]
  exact (succeeds_token_of_splits ends splits).bind (Succeeds.pure _)

theorem succeeds_readBare {slice : Slice} (ends : slice.Ends (Slice.ofText text)) :
    Succeeds text (readBare text slice.start)
      ((slice.splitWhile isBareValueChar).1.token text,
        (slice.splitWhile isBareValueChar).2.start) := by
  rw [readBare, runEnd_eq ends uniform_isBareValueChar]
  exact (succeeds_token_of_splits ends (slice.splitWhile_splits _)).bind (Succeeds.pure _)

theorem peek_of_cons {slice : Slice} (ends : slice.Ends (Slice.ofText text)) {d : Char}
    {rest : List Char} (front : slice.chars = d :: rest) (small : d.toNat < 0x80 := by decide) :
    peek text slice.start = some d := by
  rw [peek_eq_some_iff ends small, front, List.head?_cons]

theorem exists_cons_of_peek {slice : Slice} (ends : slice.Ends (Slice.ofText text)) {d : Char}
    (peeked : peek text slice.start = some d) (small : d.toNat < 0x80 := by decide) :
    ∃ rest, slice.chars = d :: rest :=
  List.head?_eq_some_iff.mp ((peek_eq_some_iff ends small).mp peeked)

theorem start_add_one {slice : Slice} {c : Char} {rest : List Char}
    (front : slice.chars = c :: rest) (small : c.toNat < 0x80 := by decide) :
    slice.start + 1 = (slice.drop 1).start := by
  rw [Slice.start_drop_one front, utf8Size_of_lt small]

theorem succeeds_readValue {slice : Slice} (ends : slice.Ends (Slice.ofText text)) :
    Succeeds text (readValue text slice.start)
    (slice.readValue.1.token text, slice.readValue.2.start) := by
  have inner := (Slice.drop_ends 1 slice).trans ends
  unfold readValue
  split
  · rename_i double
    obtain ⟨rest, front⟩ := exists_cons_of_peek ends double
    rw [start_add_one front]
    simp only [Slice.readValue, front]
    exact succeeds_readQuoted inner
  · rename_i notDouble
    split
    · rename_i single
      obtain ⟨rest, front⟩ := exists_cons_of_peek ends single
      rw [start_add_one front]
      simp only [Slice.readValue, front]
      exact succeeds_readQuoted inner
    · rename_i notSingle
      have bare : slice.readValue = slice.splitWhile isBareValueChar := by
        unfold Slice.readValue
        split
        · rename_i front
          exact absurd (peek_of_cons ends front) notDouble
        · rename_i front
          exact absurd (peek_of_cons ends front) notSingle
        · rfl
      rw [bare]
      exact succeeds_readBare ends

theorem succeeds_readAttribute {slice : Slice} (ends : slice.Ends (Slice.ofText text)) :
    Succeeds text (readAttribute text slice.start)
      (slice.readAttribute.1.place text, slice.readAttribute.2.start) := by
  have splits := slice.splitWhile_splits isAttributeNameChar
  have restEnds := splits.ends.trans ends
  have gapEnds := (Slice.skipBlanks_ends _).trans restEnds
  have valueEnds := (Slice.drop_ends 1 _).trans gapEnds
  have nameStop := runEnd_eq ends uniform_isAttributeNameChar
  have sign : runEnd text Text.isBlank (slice.splitWhile isAttributeNameChar).2.start =
      (slice.splitWhile isAttributeNameChar).2.skipBlanks.start :=
    runEnd_eq restEnds uniform_isBlank
  unfold readAttribute
  simp only [nameStop, sign]
  refine (succeeds_token_of_splits ends splits).bind ?_
  split
  · rename_i equals
    obtain ⟨rest, front⟩ := exists_cons_of_peek gapEnds equals
    have valueStart : runEnd text Text.isBlank
        ((slice.splitWhile isAttributeNameChar).2.skipBlanks.start + 1) =
        ((slice.splitWhile isAttributeNameChar).2.skipBlanks.drop 1).skipBlanks.start := by
      rw [start_add_one front]
      exact runEnd_eq valueEnds uniform_isBlank
    simp only [Slice.readAttribute, front, valueStart]
    exact (succeeds_readValue ((Slice.skipBlanks_ends _).trans valueEnds)).bind (Succeeds.pure _)
  · rename_i noEquals
    have bare : slice.readAttribute =
        (⟨(slice.splitWhile isAttributeNameChar).1, none⟩,
          (slice.splitWhile isAttributeNameChar).2) := by
      unfold Slice.readAttribute
      simp only
      split
      · rename_i front
        exact absurd (peek_of_cons gapEnds front) noEquals
      · rfl
    rw [bare]
    exact Succeeds.pure _

/-- An attribute is read from at least one byte. -/
theorem start_lt_readAttribute {slice : Slice} {c : Char} {rest : List Char}
    (front : slice.chars = c :: rest) (starts : isAttributeNameChar c = true ∨ c = '=') :
    slice.start < slice.readAttribute.2.start := by
  have read := Slice.readAttribute_readFrom front starts
  calc slice.start ≤ slice.readAttribute.1.start := read.name_within.start_le
    _ < slice.readAttribute.1.stop := read.start_lt_stop
    _ ≤ slice.readAttribute.2.start := read.stop_le

/-- The loop over the attributes moves on, whether it passes over a slash or
reads an attribute, and reads what the tag holds. -/
theorem succeeds_readAttributes {slice : Slice} (ends : slice.Ends (Slice.ofText text))
    (found : List AttributeLexeme) :
    Succeeds text (readAttributes text slice.start (found.map (AttributeLexeme.place text)))
      ((slice.readAttributes found).attributes.map (AttributeLexeme.place text),
        (slice.readAttributes found).selfClosing, (slice.readAttributes found).rest.start) := by
  have start {slice : Slice} (ends : slice.Ends (Slice.ofText text)) :
      runEnd text Text.isBlank slice.start = slice.skipBlanks.start :=
      runEnd_eq ends uniform_isBlank
  fun_induction Slice.readAttributes slice found with
  | case1 slice found front =>
      have peeked : peek text slice.skipBlanks.start = none := by
        rw [peek_eq (slice.skipBlanks_ends.trans ends), front]
        rfl
      rw [readAttributes]
      simp only [start ends, peeked, List.map_reverse]
      exact Succeeds.pure _
  | case2 slice found rest front =>
      have blanks := slice.skipBlanks_ends.trans ends
      rw [readAttributes]
      simp only [start ends, peek_of_cons blanks front, if_true, List.map_reverse,
        start_add_one front]
      exact Succeeds.pure _
  | case3 slice found rest closed front slashed =>
      have blanks := slice.skipBlanks_ends.trans ends
      obtain ⟨rest, rfl⟩ := List.head?_eq_some_iff.mp closed
      have behind : (slice.skipBlanks.drop 1).chars = '>' :: rest := by
        rw [Slice.drop, Slice.splitAt, front]
        rfl
      have peeked := peek_of_cons ((Slice.drop_ends 1 _).trans blanks) behind
      have two : (slice.skipBlanks.drop 2).start = slice.skipBlanks.start + 2 := by
        rw [Slice.drop, Slice.splitAt, front]
        rfl
      rw [← start_add_one front] at peeked
      rw [readAttributes]
      simp only [start ends, peek_of_cons blanks front, slashed, if_false, if_true, peeked,
        List.map_reverse, two]
      exact Succeeds.pure _
  | case4 slice found rest open_ front slashed ih =>
      have blanks := slice.skipBlanks_ends.trans ends
      have nextEnds := (Slice.drop_ends 1 slice.skipBlanks).trans slice.skipBlanks_ends
      have behind : (slice.skipBlanks.drop 1).chars = rest := by
        rw [Slice.drop, Slice.splitAt, front]
        rfl
      have peeked : ¬ peek text (slice.skipBlanks.drop 1).start = some '>' := by
        rw [peek_eq_some_iff (nextEnds.trans ends), behind]
        exact open_
      have forwards : slice.start < (slice.skipBlanks.drop 1).start := by
        rw [← start_add_one front]
        exact Nat.lt_succ_of_le slice.skipBlanks_ends.start_le
      rw [readAttributes]
      simp only [start ends, peek_of_cons blanks front, slashed, if_false, if_true,
        start_add_one front, peeked, dif_pos (advances_of_ends ends nextEnds forwards)]
      exact ih (nextEnds.trans ends)
  | case5 slice found c rest front unended unslashed ih =>
      have blanks := slice.skipBlanks_ends.trans ends
      have starts := starts_attribute (Slice.not_isBlank_of_skipBlanks front) unended unslashed
      have nextEnds := (Slice.readAttribute_readFrom front starts).ends.trans slice.skipBlanks_ends
      have peeked : peek text slice.skipBlanks.start = some (Checked.front c) := by
        rw [peek_eq blanks, front]
        rfl
      have notEnd : ¬ Checked.front c = '>' := mt (front_eq_iff (by decide)).mp unended
      have notSlash : ¬ Checked.front c = '/' := mt (front_eq_iff (by decide)).mp unslashed
      have forwards : slice.start < slice.skipBlanks.readAttribute.2.start :=
        Nat.lt_of_le_of_lt slice.skipBlanks_ends.start_le (start_lt_readAttribute front starts)
      rw [readAttributes]
      simp only [start ends, peeked, notEnd, notSlash, if_false]
      refine (succeeds_readAttribute blanks).bind ?_
      simp only [dif_pos (advances_of_ends ends nextEnds forwards)]
      exact ih (nextEnds.trans ends)

end Checked

end MarkupLint.Markup
