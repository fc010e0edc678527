import MarkupLint.Proofs.Markup.Lookup
import MarkupLint.Proofs.Markup.Reading
import MarkupLint.Proofs.Text.Utf8

/-!
# Texts by byte offsets

A text can be read without dividing it into characters: by the byte at an offset, by
a run of bytes that pass a test, and by the part between two offsets. The last of
these makes sense only if both offsets are boundaries in order, and is refused
otherwise (`between_eq_ok_iff`). Tests on bytes see the characters below 128 as they
are and cannot mistake a byte of another character for one of them, so wherever a
slice ends the text, looking at bytes from its start is looking at its characters.
-/

namespace MarkupLint.Markup

/-- What would break off a scan that goes by byte offsets. -/
inductive Fault where
  /-- A loop goes round and has not moved on inside the text. -/
  | stuck
  /-- Two offsets bound no part of the text: they are out of order, out of
  range, or inside a character. -/
  | badRange
  /-- The table of line starts has no such entry. -/
  | badLine
  /-- Of a column, more than the column is taken away. -/
  | badColumn
deriving DecidableEq, Repr

namespace Checked

open Text (utf8Bytes)

/-- The bytes of a text. -/
def bytes (text : String) : List UInt8 :=
  text.toUTF8.data.toList

/-- A byte read as the character of its number. -/
def ofByte (byte : UInt8) : Char :=
  Char.ofNat byte.toNat

/-- The byte at an offset, read as a character. -/
def peek (text : String) (offset : Nat) : Option Char :=
  (bytes text)[offset]?.map ofByte

/-- The end of the run of bytes that pass the test. -/
def runEnd (text : String) (keep : Char → Bool) (offset : Nat) : Nat :=
  offset + (((bytes text).drop offset).takeWhile fun byte => keep (ofByte byte)).length

/-- The part of a text between two offsets. -/
def between (text : String) (start stop : Nat) : Except Fault String :=
  if start ≤ stop ∧ String.Pos.Raw.isValid text ⟨start⟩ = true ∧
      String.Pos.Raw.isValid text ⟨stop⟩ = true then
    .ok (String.Pos.Raw.extract text ⟨start⟩ ⟨stop⟩)
  else .error .badRange

/-- Where `needle` first stands at `start` or behind it. -/
def find (text : String) (needle : List Char) (start : Nat) : Except Fault (Option Nat) := do
  let rest ← between text start text.utf8ByteSize
  let (before, found) := cutBefore needle.isPrefixOf rest.toList
  return if found.isEmpty then none else some (start + byteSize before)

/-- The offset behind the first `needle`, or the end of the text if there is none. -/
def findThrough (text : String) (needle : List Char) (start : Nat) : Except Fault Nat := do
  match ← find text needle start with
  | some found => return found + byteSize needle
  | none => return text.utf8ByteSize

/-- The position at an offset, and all that finding it relies on. -/
def locate (cursor : Cursor) (offset : Nat) : Except Fault Position := do
  let line := cursor.lineOf offset
  if cursor.last.line ≠ line then
    let some lineStart := cursor.lineStarts[line - 1]? | throw .badLine
    let passed ← between cursor.text lineStart offset
    return ⟨line, passed.length + 1, offset⟩
  else if cursor.last.offset ≤ offset then
    let passed ← between cursor.text cursor.last.offset offset
    return ⟨line, cursor.last.column + passed.length, offset⟩
  else
    let passed ← between cursor.text offset cursor.last.offset
    if passed.length ≤ cursor.last.column then
      return ⟨line, cursor.last.column - passed.length, offset⟩
    else throw .badColumn

/-! ## Bytes -/

theorem length_utf8Bytes (chars : List Char) : (utf8Bytes chars).length = byteSize chars := by
  induction chars with
  | nil => rfl
  | cons c chars ih =>
      rw [Text.utf8Bytes_cons, List.length_append, String.length_utf8EncodeChar, ih, byteSize_cons]

theorem ofByte_ofNat {c : Char} (small : c.toNat < 0x80) : ofByte (UInt8.ofNat c.toNat) = c := by
  have toNat : (UInt8.ofNat c.toNat).toNat = c.toNat := by
    rw [UInt8.toNat_ofNat']
    omega
  rw [ofByte, toNat, Char.ofNat_toNat]

theorem le_toNat_ofByte {byte : UInt8} (large : 0x80 ≤ byte.toNat) :
    0x80 ≤ (ofByte byte).toNat := by
  have valid : byte.toNat.isValidChar := Or.inl (Nat.lt_trans byte.toNat_lt (by decide))
  rw [ofByte, Char.ofNat, dif_pos valid]
  exact large

/-- The bytes from the start of a slice on are those of its characters. -/
theorem drop_bytes {text : String} {slice : Slice} (ends : slice.Ends (Slice.ofText text)) :
    (bytes text).drop slice.start = utf8Bytes slice.chars := by
  obtain ⟨before, whole, start⟩ := ends
  have whole : text.toList = before ++ slice.chars := whole
  have start : slice.start = byteSize before := by rw [start, Slice.ofText, Nat.zero_add]
  rw [bytes, Text.toList_data_toUTF8, whole, Text.utf8Bytes_append, start, ← length_utf8Bytes,
    List.drop_left]

/-! ## Tests on bytes -/

/-- The test gives one value for all characters from 128 on. -/
def Uniform (test : Char → Bool) (value : Bool) : Prop :=
  ∀ c : Char, 0x80 ≤ c.toNat → test c = value

/-- The first byte of a character, read as a character. -/
def front (c : Char) : Char :=
  ((String.utf8EncodeChar c).head?.map ofByte).getD c

theorem front_of_lt {c : Char} (small : c.toNat < 0x80) : front c = c := by
  rw [front, Text.utf8EncodeChar_of_lt small]
  exact ofByte_ofNat small

theorem le_toNat_front {c : Char} (large : 0x80 ≤ c.toNat) : 0x80 ≤ (front c).toNat := by
  obtain ⟨byte, others, encoded⟩ :=
    List.exists_cons_of_ne_nil (String.utf8EncodeChar_ne_nil (c := c))
  have mem : byte ∈ String.utf8EncodeChar c := encoded ▸ List.mem_cons_self
  rw [front, encoded]
  exact le_toNat_ofByte (Text.le_of_mem_utf8EncodeChar large mem)

theorem Uniform.front {test : Char → Bool} {value : Bool} (uniform : Uniform test value)
    (c : Char) : test (front c) = test c := by
  by_cases small : c.toNat < 0x80
  · rw [front_of_lt small]
  · have large := Nat.le_of_not_lt small
    rw [uniform _ (le_toNat_front large), uniform c large]

theorem ne_of_toNat {c d : Char} (large : 0x80 ≤ c.toNat) (small : d.toNat < 0x80 := by decide) :
    c ≠ d := by
  rintro rfl
  omega

theorem front_eq_iff {c d : Char} (small : d.toNat < 0x80) : front c = d ↔ c = d := by
  have uniform : Uniform (· == d) false := by
    intro c large
    exact beq_eq_false_iff_ne.mpr (ne_of_toNat large small)
  rw [← beq_iff_eq, ← beq_iff_eq (a := c)]
  exact Bool.eq_iff_iff.mp (uniform.front c)

theorem peek_eq {text : String} {slice : Slice} (ends : slice.Ends (Slice.ofText text)) :
    peek text slice.start = slice.chars.head?.map front := by
  have first : (bytes text)[slice.start]? = (utf8Bytes slice.chars)[0]? := by
    rw [← drop_bytes ends, List.getElem?_drop, Nat.add_zero]
  rw [peek, first]
  cases slice.chars with
  | nil => rfl
  | cons c rest =>
      obtain ⟨byte, others, encoded⟩ :=
        List.exists_cons_of_ne_nil (String.utf8EncodeChar_ne_nil (c := c))
      rw [Text.utf8Bytes_cons, encoded, List.head?_cons, Option.map_some, Checked.front, encoded]
      rfl

/-- A run of bytes stops where the run of characters stops, since all bytes of a character from
128 on pass the test as that character does. -/
theorem takeWhile_utf8Bytes {keep : Char → Bool} {value : Bool} (uniform : Uniform keep value)
    (chars : List Char) :
    (utf8Bytes chars).takeWhile (fun byte => keep (ofByte byte)) =
      utf8Bytes (chars.takeWhile keep) := by
  induction chars with
  | nil => rfl
  | cons c chars ih =>
      rw [Text.utf8Bytes_cons]
      by_cases small : c.toNat < 0x80
      · rw [Text.utf8EncodeChar_of_lt small, List.singleton_append, List.takeWhile_cons,
          ofByte_ofNat small, List.takeWhile_cons]
        split
        · rw [ih, Text.utf8Bytes_cons, Text.utf8EncodeChar_of_lt small, List.singleton_append]
        · rfl
      · have large := Nat.le_of_not_lt small
        have same : ∀ byte ∈ String.utf8EncodeChar c, keep (ofByte byte) = value := by
          intro byte mem
          exact uniform _ (le_toNat_ofByte (Text.le_of_mem_utf8EncodeChar large mem))
        cases value with
        | true =>
            rw [List.takeWhile_append_of_pos same, ih,
              List.takeWhile_cons_of_pos (uniform c large), Text.utf8Bytes_cons]
        | false =>
            obtain ⟨byte, others, encoded⟩ :=
              List.exists_cons_of_ne_nil (String.utf8EncodeChar_ne_nil (c := c))
            have stops := same byte (encoded ▸ List.mem_cons_self)
            rw [encoded, List.cons_append, List.takeWhile_cons_of_neg (Bool.not_eq_true _ ▸ stops),
              List.takeWhile_cons_of_neg (Bool.not_eq_true _ ▸ uniform c large)]
            rfl

theorem runEnd_eq {text : String} {slice : Slice} (ends : slice.Ends (Slice.ofText text))
    {keep : Char → Bool} {value : Bool} (uniform : Uniform keep value) :
    runEnd text keep slice.start = (slice.splitWhile keep).2.start := by
  rw [runEnd, drop_bytes ends, takeWhile_utf8Bytes uniform, length_utf8Bytes,
    ← Slice.chars_splitWhile_fst, (slice.splitWhile_splits keep).next]
  rfl

/-! ## Boundaries and parts -/

theorem byteSize_toList (text : String) : byteSize text.toList = text.utf8ByteSize := by
  rw [byteSize_eq_utf8Len, String.utf8Len_toList]

theorem isValid_iff_boundary {text : String} {offset : Nat} :
    String.Pos.Raw.isValid text ⟨offset⟩ = true ↔ Boundary text.toList offset := by
  rw [String.Pos.Raw.isValid_eq_true_iff, String.Pos.Raw.isValid_iff_exists_append]
  constructor
  · rintro ⟨before, after, rfl, size⟩
    refine ⟨before.toList, after.toList, String.toList_append, ?_⟩
    rw [byteSize_toList]
    exact (congrArg String.Pos.Raw.byteIdx size).symm
  · rintro ⟨before, after, whole, rfl⟩
    refine ⟨String.ofList before, String.ofList after, ?_, ?_⟩
    · rw [← String.ofList_append, ← whole, String.ofList_toList]
    · rw [String.rawEndPos, ← byteSize_toList, String.toList_ofList]

theorem between_of_boundary {text : String} {start stop : Nat} (le : start ≤ stop)
    (startBoundary : Boundary text.toList start) (stopBoundary : Boundary text.toList stop) :
    between text start stop = .ok (String.Pos.Raw.extract text ⟨start⟩ ⟨stop⟩) := by
  rw [between, if_pos ⟨le, isValid_iff_boundary.mpr startBoundary,
    isValid_iff_boundary.mpr stopBoundary⟩]

theorem between_eq {text : String} {part : Slice} (within : part.Within (Slice.ofText text)) :
    between text part.start part.stop = .ok (String.ofList part.chars) := by
  rw [between_of_boundary part.start_le_stop within.boundary.1 within.boundary.2]
  obtain ⟨before, after, whole, start⟩ := within
  have asList : text = String.ofList (before ++ part.chars ++ after) := by
    rw [← whole, Slice.ofText, String.ofList_toList]
  have start : part.start = String.utf8Len before := by
    rw [start, Slice.ofText, Nat.zero_add, byteSize_eq_utf8Len]
  rw [Slice.stop, asList, start, byteSize_eq_utf8Len, String.extract_of_valid]

/-- Two offsets give a part of a text exactly if they are its two ends. -/
theorem between_eq_ok_iff {text piece : String} {start stop : Nat} :
    between text start stop = .ok piece ↔
      ∃ part : Slice, part.Within (Slice.ofText text) ∧ part.start = start ∧ part.stop = stop ∧
        String.ofList part.chars = piece := by
  constructor
  · intro given
    have bounds : start ≤ stop ∧ Boundary text.toList start ∧ Boundary text.toList stop := by
      unfold between at given
      split at given
      · rename_i bounds
        exact ⟨bounds.1, isValid_iff_boundary.mp bounds.2.1, isValid_iff_boundary.mp bounds.2.2⟩
      · cases given
    obtain ⟨le, ⟨before, after, whole, rfl⟩, ⟨longer, after', whole', rfl⟩⟩ := bounds
    obtain ⟨more, rfl⟩ := exists_append_of_byteSize_le (whole.symm.trans whole') le
    have within : Slice.Within ⟨byteSize before, more⟩ (Slice.ofText text) :=
      ⟨before, after', whole', (Nat.zero_add _).symm⟩
    refine ⟨⟨byteSize before, more⟩, within, rfl, (byteSize_append before more).symm, ?_⟩
    have same := (between_eq within).symm.trans
      ((congrArg (between text (byteSize before)) (byteSize_append before more).symm).trans given)
    exact Except.ok.inj same
  · rintro ⟨part, within, rfl, rfl, rfl⟩
    exact between_eq within

example : between "né" 1 2 = .error .badRange := by decide +kernel

example : between "né" 3 1 = .error .badRange := by decide +kernel

/-! ## Searches -/

theorem utf8ByteSize_eq_stop {text : String} {slice : Slice}
    (ends : slice.Ends (Slice.ofText text)) : text.utf8ByteSize = slice.stop := by
  rw [ends.stop_eq, Slice.stop, Slice.ofText, Nat.zero_add, byteSize_toList]

theorem between_end {text : String} {slice : Slice} (ends : slice.Ends (Slice.ofText text)) :
    between text slice.start text.utf8ByteSize = .ok (String.ofList slice.chars) := by
  rw [utf8ByteSize_eq_stop ends]
  exact between_eq ends.within

theorem find_eq {text : String} {slice : Slice} (ends : slice.Ends (Slice.ofText text))
    (needle : List Char) :
    find text needle slice.start =
      .ok (if (slice.cut needle.isPrefixOf).2.chars.isEmpty then none
        else some (slice.cut needle.isPrefixOf).2.start) := by
  rw [find, between_end ends]
  simp only [bind, Except.bind, String.toList_ofList]
  rfl

theorem findThrough_eq {text : String} {slice : Slice} (ends : slice.Ends (Slice.ofText text))
    (needle : List Char) :
    findThrough text needle slice.start =
      .ok ((slice.cut needle.isPrefixOf).2.drop needle.length).start := by
  have restEnds := (slice.cut_splits needle.isPrefixOf).ends.trans ends
  rw [findThrough, find_eq ends]
  simp only [bind, Except.bind]
  cases left : (slice.cut needle.isPrefixOf).2.chars with
  | nil =>
      have size := utf8ByteSize_eq_stop restEnds
      rw [Slice.stop, left] at size
      rw [Slice.drop, Slice.splitAt, left, List.take_nil]
      exact congrArg Except.ok size
  | cons c rest =>
      have found : needle <+: c :: rest :=
        List.isPrefixOf_iff_prefix.mp (cutBefore_snd_eq_cons left)
      rw [Slice.drop, Slice.splitAt, left, ← List.prefix_iff_eq_take.mp found]
      rfl

/-! ## Positions -/

/-- The line of a boundary is found in the table, at or in front of the boundary. -/
theorem getElem?_lineStarts {text : String} {before after : List Char}
    (whole : text.toList = before ++ after) :
    ∃ start, (lineStartsOf text)[before.count '\n']? = some start ∧
      (lineStartsOf text).getD (before.count '\n') 0 = start ∧ Boundary text.toList start ∧
      start ≤ byteSize before := by
  obtain ⟨front, line, rfl, oneLine, -, starts⟩ := exists_lastLine before
  have entry := getD_lineStartsOf whole oneLine starts
  have inRange : (front ++ line).count '\n' < (lineStartsOf text).size := by
    obtain ⟨entries, -, -⟩ := lineStartsOf_divides whole
    rw [← Array.length_toList, entries, List.length_append, List.length_cons, length_lineBreaks]
    omega
  refine ⟨byteSize front, ?_, entry, ⟨front, line ++ after, ?_, rfl⟩, ?_⟩
  · rw [← entry, Array.getElem?_eq_getElem inRange, Array.getD, dif_pos inRange]
    rfl
  · rw [whole, List.append_assoc]
  · rw [byteSize_append]
    exact Nat.le_add_right _ _

/-- A sound cursor finds every boundary, and relies on nothing that is not there. -/
theorem locate_eq {text : String} {cursor : Cursor} (sound : cursor.Sound text) {offset : Nat}
    (boundary : Boundary text.toList offset) :
    locate cursor offset = .ok (cursor.find offset) := by
  obtain ⟨known, unknown, whole', lastEq⟩ := sound.last_eq
  have lastOffset : cursor.last.offset = byteSize known := by rw [lastEq, Position.after]
  have lastBoundary : Boundary text.toList cursor.last.offset :=
    ⟨known, unknown, whole', lastOffset.symm⟩
  obtain ⟨before, after, whole, rfl⟩ := boundary
  have boundary : Boundary text.toList (byteSize before) := ⟨before, after, whole, rfl⟩
  rw [locate, Cursor.find, sound.lineOf_eq whole, Cursor.columnOf, sound.text_eq,
    sound.lineStarts_eq]
  split
  · obtain ⟨start, entry, value, startBoundary, le⟩ := getElem?_lineStarts whole
    have index : (Position.after before).line - 1 = before.count '\n' := by
      simp only [Position.after, Nat.add_sub_cancel_left]
    rw [index, entry, value]
    simp only [between_of_boundary le startBoundary boundary, bind, Except.bind]
    rfl
  · rename_i sameLine
    simp only [ne_eq, Decidable.not_not] at sameLine
    split
    · rename_i forwards
      simp only [between_of_boundary forwards lastBoundary boundary, bind, Except.bind]
      rfl
    · -- backwards: the characters between are part of the column remembered
      rename_i backwards
      have le := Nat.le_of_not_le backwards
      have counted : countBetween text (byteSize before) cursor.last.offset ≤
          cursor.last.column := by
        rw [lastOffset] at le ⊢
        obtain ⟨more, rfl⟩ := exists_append_of_byteSize_le (whole.symm.trans whole') le
        rw [lastEq] at sameLine ⊢
        rw [byteSize_append, countBetween_eq whole', column_after_append sameLine.symm]
        exact Nat.le_add_left _ _
      simp only [between_of_boundary le boundary lastBoundary, bind, Except.bind]
      exact if_pos counted

example : locate ⟨"né", #[0], ⟨1, 1, 3⟩⟩ 0 = .error .badColumn := by decide +kernel

example : locate ⟨"né", #[], ⟨1, 1, 0⟩⟩ 1 = .error .badLine := by decide +kernel

end Checked

end MarkupLint.Markup
