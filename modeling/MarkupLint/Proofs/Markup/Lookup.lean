import Mathlib.Data.List.TakeWhile
import Mathlib.Data.String.Basic
import MarkupLint.Markup.Cursor
import MarkupLint.Proofs.Markup.Offset

/-!
# Looking positions up

A cursor finds the plain position of every boundary, whatever it was asked for before. The table
of line starts divides at the offset asked for into the starts of the lines up to there and those
behind. Within one line, columns differ by the characters between. A cursor that remembers a plain
position therefore finds plain positions, and remembers one again.
-/

namespace MarkupLint.Markup

/-! ## The table of line starts -/

/-- The starts of all lines but the first, in characters that stand at `offset`. -/
def lineBreaks (offset : Nat) : List Char → List Nat
  | [] => []
  | c :: rest =>
      if c = '\n' then (offset + c.utf8Size) :: lineBreaks (offset + c.utf8Size) rest
      else lineBreaks (offset + c.utf8Size) rest

theorem toList_lineStartsFrom (starts : Array Nat) (offset : Nat) (chars : List Char) :
    (lineStartsFrom starts offset chars).toList = starts.toList ++ lineBreaks offset chars := by
  induction chars generalizing starts offset with
  | nil => simp [lineStartsFrom, lineBreaks]
  | cons c rest ih =>
      rw [lineStartsFrom, lineBreaks, ih]
      split <;> simp

theorem toList_lineStartsOf (text : String) :
    (lineStartsOf text).toList = 0 :: lineBreaks 0 text.toList := by
  rw [lineStartsOf, toList_lineStartsFrom]
  rfl

theorem lineBreaks_append (offset : Nat) (first second : List Char) :
    lineBreaks offset (first ++ second) =
      lineBreaks offset first ++ lineBreaks (offset + byteSize first) second := by
  induction first generalizing offset with
  | nil => simp [lineBreaks]
  | cons c rest ih =>
      rw [List.cons_append, lineBreaks, lineBreaks, ih, byteSize_cons, Nat.add_assoc]
      split
      · rw [List.cons_append]
      · rfl

theorem length_lineBreaks (offset : Nat) (chars : List Char) :
    (lineBreaks offset chars).length = chars.count '\n' := by
  induction chars generalizing offset with
  | nil => rfl
  | cons c rest ih =>
      rw [lineBreaks]
      split
      · rename_i lineBreak
        rw [lineBreak, List.count_cons_self, List.length_cons, ih]
      · rename_i other
        rw [List.count_cons_of_ne other, ih]

theorem lineBreaks_eq_nil {chars : List Char} (oneLine : '\n' ∉ chars) (offset : Nat) :
    lineBreaks offset chars = [] := by
  rw [← List.length_eq_zero_iff, length_lineBreaks, List.count_eq_zero]
  exact oneLine

theorem mem_lineBreaks_bounds {offset start : Nat} {chars : List Char}
    (mem : start ∈ lineBreaks offset chars) :
    offset < start ∧ start ≤ offset + byteSize chars := by
  induction chars generalizing offset with
  | nil => simp [lineBreaks] at mem
  | cons c rest ih =>
      have positive := c.utf8Size_pos
      have inRest : start ∈ lineBreaks (offset + c.utf8Size) rest →
          offset < start ∧ start ≤ offset + byteSize (c :: rest) := by
        intro later
        have bounds := ih later
        rw [byteSize_cons]
        omega
      rw [lineBreaks] at mem
      split at mem
      · rcases List.mem_cons.mp mem with rfl | later
        · rw [byteSize_cons]
          omega
        · exact inRest later
      · exact inRest mem

/-! ## Searching the table -/

/-- In a table that divides at `offset`, the entries not beyond it are those of the front part. -/
theorem getD_le_iff {table : Array Nat} {offset : Nat} {low high : List Nat}
    (entries : table.toList = low ++ high) (below : ∀ entry ∈ low, entry ≤ offset)
    (beyond : ∀ entry ∈ high, offset < entry) {index : Nat} (inside : index < table.size) :
    table.getD index 0 ≤ offset ↔ index < low.length := by
  have found : table.getD index 0 = (low ++ high)[index]?.getD 0 := by
    rw [← entries, Array.getElem?_toList, Array.getD_eq_getD_getElem?]
  rw [found]
  by_cases early : index < low.length
  · rw [List.getElem?_append_left early, List.getElem?_eq_getElem early, Option.getD_some]
    exact iff_of_true (below _ (List.getElem_mem early)) early
  · have size : table.size = low.length + high.length := by
      rw [← Array.length_toList, entries, List.length_append]
    have late : index - low.length < high.length := by omega
    rw [List.getElem?_append_right (Nat.le_of_not_lt early), List.getElem?_eq_getElem late,
      Option.getD_some]
    exact iff_of_false (Nat.not_le.mpr (beyond _ (List.getElem_mem late))) early

/-- The search keeps the point of division between its bounds, and ends at it. -/
theorem partitionBetween_eq {table : Array Nat} {offset : Nat} {front back : List Nat}
    (entries : table.toList = front ++ back) (below : ∀ entry ∈ front, entry ≤ offset)
    (beyond : ∀ entry ∈ back, offset < entry) {low high : Nat} (lowLe : low ≤ front.length)
    (leHigh : front.length ≤ high) (highLe : high ≤ table.size) :
    partitionBetween table offset low high = front.length := by
  fun_induction partitionBetween table offset low high with
  | case1 low high open_ small ih =>
      have inside : (low + high) / 2 < table.size := by omega
      have early := (getD_le_iff entries below beyond inside).mp small
      exact ih early leHigh highLe
  | case2 low high open_ large ih =>
      have inside : (low + high) / 2 < table.size := by omega
      have late := mt (getD_le_iff entries below beyond inside).mpr large
      exact ih lowLe (Nat.le_of_not_lt late) (by omega)
  | case3 low high closed => omega

theorem partitionPoint_eq {table : Array Nat} {offset : Nat} {front back : List Nat}
    (entries : table.toList = front ++ back) (below : ∀ entry ∈ front, entry ≤ offset)
    (beyond : ∀ entry ∈ back, offset < entry) : partitionPoint table offset = front.length := by
  have size : table.size = front.length + back.length := by
    rw [← Array.length_toList, entries, List.length_append]
  exact partitionBetween_eq entries below beyond (Nat.zero_le _) (by omega) (Nat.le_refl _)

/-! ## Columns on one line -/

/-- A text is its last line behind all lines before it. -/
theorem exists_lastLine (before : List Char) :
    ∃ front line, before = front ++ line ∧ '\n' ∉ line ∧
      line.length = Position.lastLineLength before ∧
      (front = [] ∨ ∃ init, front = init ++ ['\n']) := by
  refine ⟨(before.reverse.dropWhile (· != '\n')).reverse,
    (before.reverse.takeWhile (· != '\n')).reverse, ?_, ?_, ?_, ?_⟩
  · rw [← List.reverse_append, List.takeWhile_append_dropWhile, List.reverse_reverse]
  · intro mem
    have kept := List.mem_takeWhile_imp (List.mem_reverse.mp mem)
    simp at kept
  · rw [List.length_reverse]
    rfl
  · cases left : before.reverse.dropWhile (· != '\n') with
    | nil => exact Or.inl rfl
    | cons c rest =>
        have stops : c = '\n' := by
          have head := List.head?_dropWhile_not (· != '\n') before.reverse
          simpa [left] using head
        exact Or.inr ⟨rest.reverse, by rw [stops, List.reverse_cons]⟩

/-- Characters without a line break lengthen the last line. -/
theorem lastLineLength_append {more : List Char} (oneLine : '\n' ∉ more) (before : List Char) :
    Position.lastLineLength (before ++ more) = Position.lastLineLength before + more.length := by
  have kept : ∀ c ∈ more.reverse, (c != '\n') = true := by
    intro c mem
    have other : c ≠ '\n' := fun same => oneLine (same ▸ List.mem_reverse.mp mem)
    simpa using other
  rw [Position.lastLineLength, List.reverse_append, List.takeWhile_append_of_pos kept,
    List.length_append, List.length_reverse, Nat.add_comm]
  rfl

theorem byteSize_eq_utf8Len (chars : List Char) : byteSize chars = String.utf8Len chars := by
  induction chars with
  | nil => rfl
  | cons c rest ih => rw [byteSize_cons, String.utf8Len_cons, ih, Nat.add_comm]

theorem countBetween_eq {text : String} {before between after : List Char}
    (whole : text.toList = before ++ between ++ after) :
    countBetween text (byteSize before) (byteSize before + byteSize between) = between.length := by
  have asList : text = String.ofList (before ++ between ++ after) := by
    rw [← whole, String.ofList_toList]
  rw [countBetween, asList, byteSize_eq_utf8Len, byteSize_eq_utf8Len, String.extract_of_valid,
    String.length_ofList]

/-- Of two front parts of a text, the one with no more bytes begins the other. -/
theorem exists_append_of_byteSize_le {first second restFirst restSecond : List Char}
    (same : first ++ restFirst = second ++ restSecond) (size : byteSize first ≤ byteSize second) :
    ∃ more, second = first ++ more := by
  rcases List.append_eq_append_iff.mp same with ⟨more, split, -⟩ | ⟨more, split, -⟩
  · exact ⟨more, split⟩
  · have empty : more = [] := by
      rw [split, byteSize_append] at size
      exact byteSize_eq_zero_iff.mp (by omega)
    subst empty
    exact ⟨[], by simp [split]⟩

/-- On one line, columns differ by the characters between. -/
theorem column_after_append {before more : List Char}
    (sameLine : (Position.after before).line = (Position.after (before ++ more)).line) :
    (Position.after (before ++ more)).column = (Position.after before).column + more.length := by
  have oneLine : '\n' ∉ more := by
    simp only [Position.after, List.count_append] at sameLine
    exact List.count_eq_zero.mp (by omega)
  simp only [Position.after, lastLineLength_append oneLine, Nat.add_assoc]

/-! ## The order of positions -/

theorem Position.lt_iff (first second : Position) :
    first < second ↔ first.line < second.line ∨ (first.line = second.line ∧
      (first.column < second.column ∨
        (first.column = second.column ∧ first.offset < second.offset))) :=
  Iff.rfl

theorem Position.not_lt_of_lt {first second : Position} (precedes : first < second) :
    ¬ second < first := by
  rw [Position.lt_iff] at precedes ⊢
  omega

/-- Behind more characters, the line is higher, or it is the same and the column is higher. -/
theorem Position.after_lt_after_append (before : List Char) {more : List Char}
    (nonempty : more ≠ []) : Position.after before < Position.after (before ++ more) := by
  rw [Position.lt_iff]
  by_cases sameLine : (Position.after before).line = (Position.after (before ++ more)).line
  · have column := column_after_append sameLine
    have positive := List.length_pos_iff.mpr nonempty
    exact Or.inr ⟨sameLine, Or.inl (by omega)⟩
  · have lines : (Position.after (before ++ more)).line =
        (Position.after before).line + more.count '\n' := by
      simp only [Position.after, List.count_append, Nat.add_assoc]
    exact Or.inl (by omega)

theorem Position.ofOffset_lt_ofOffset {text : List Char} {first second : Nat}
    (firstBoundary : Boundary text first) (secondBoundary : Boundary text second)
    (lt : first < second) : Position.ofOffset text first < Position.ofOffset text second := by
  obtain ⟨before, after, whole, rfl⟩ := firstBoundary
  obtain ⟨before', after', whole', rfl⟩ := secondBoundary
  obtain ⟨more, rfl⟩ := exists_append_of_byteSize_le (whole.symm.trans whole') (Nat.le_of_lt lt)
  have nonempty : more ≠ [] := by
    rintro rfl
    simp at lt
  have first : Position.ofOffset text (byteSize before) = Position.after before := by
    rw [whole, Position.ofOffset_byteSize]
  have second : Position.ofOffset text (byteSize (before ++ more)) =
      Position.after (before ++ more) := by
    rw [whole', Position.ofOffset_byteSize]
  rw [first, second]
  exact Position.after_lt_after_append before nonempty

theorem Position.not_ofOffset_lt_ofOffset {text : List Char} {first second : Nat}
    (firstBoundary : Boundary text first) (secondBoundary : Boundary text second)
    (le : first ≤ second) : ¬ Position.ofOffset text second < Position.ofOffset text first := by
  rcases Nat.lt_or_eq_of_le le with less | rfl
  · exact Position.not_lt_of_lt (Position.ofOffset_lt_ofOffset firstBoundary secondBoundary less)
  · rw [Position.lt_iff]
    omega

/-- Of two spans that follow each other, the cover reaches from the start of
the first to the end of the second. -/
theorem Location.cover_ofOffset {text : List Char} {start stop start' stop' : Nat}
    (startBoundary : Boundary text start) (stopBoundary : Boundary text stop)
    (startBoundary' : Boundary text start') (stopBoundary' : Boundary text stop')
    (starts : start ≤ start') (stops : stop < stop') :
    Location.cover ⟨Position.ofOffset text start, Position.ofOffset text stop⟩
        ⟨Position.ofOffset text start', Position.ofOffset text stop'⟩ =
      ⟨Position.ofOffset text start, Position.ofOffset text stop'⟩ := by
  have first := Position.not_ofOffset_lt_ofOffset startBoundary startBoundary' starts
  have last := Position.ofOffset_lt_ofOffset stopBoundary stopBoundary' stops
  simp only [Location.cover, min, max, if_neg first, if_pos last]

/-! ## The cursor -/

/-- The entries of the table up to a boundary are one more than the line breaks in front of it. -/
theorem lineStartsOf_divides {text : String} {before after : List Char}
    (whole : text.toList = before ++ after) :
    (lineStartsOf text).toList = (0 :: lineBreaks 0 before) ++ lineBreaks (byteSize before) after ∧
      (∀ entry ∈ 0 :: lineBreaks 0 before, entry ≤ byteSize before) ∧
      ∀ entry ∈ lineBreaks (byteSize before) after, byteSize before < entry := by
  refine ⟨?_, ?_, fun entry mem => (mem_lineBreaks_bounds mem).1⟩
  · rw [toList_lineStartsOf, whole, lineBreaks_append, Nat.zero_add, List.cons_append]
  · intro entry mem
    rcases List.mem_cons.mp mem with rfl | later
    · exact Nat.zero_le _
    · simpa using (mem_lineBreaks_bounds later).2

/-- The line found in the table is the plain one. -/
theorem partitionPoint_lineStartsOf {text : String} {before after : List Char}
    (whole : text.toList = before ++ after) :
    partitionPoint (lineStartsOf text) (byteSize before) = 1 + before.count '\n' := by
  obtain ⟨entries, below, beyond⟩ := lineStartsOf_divides whole
  rw [partitionPoint_eq entries below beyond, List.length_cons, length_lineBreaks, Nat.add_comm]

/-- The table holds the start of the line on which a boundary stands. -/
theorem getD_lineStartsOf {text : String} {front line after : List Char}
    (whole : text.toList = front ++ line ++ after) (oneLine : '\n' ∉ line)
    (starts : front = [] ∨ ∃ init, front = init ++ ['\n']) :
    (lineStartsOf text).getD ((front ++ line).count '\n') 0 = byteSize front := by
  have lines : (front ++ line).count '\n' = (lineBreaks 0 front).length := by
    rw [List.count_append, List.count_eq_zero.mpr oneLine, length_lineBreaks]
    rfl
  obtain ⟨entries, -, -⟩ := lineStartsOf_divides whole
  rw [lineBreaks_append, lineBreaks_eq_nil oneLine, List.append_nil] at entries
  rw [Array.getD_eq_getD_getElem?, ← Array.getElem?_toList, entries, lines,
    List.getElem?_append_left (by simp)]
  rcases starts with rfl | ⟨init, rfl⟩
  · rfl
  · have last : lineBreaks 0 (init ++ ['\n']) = lineBreaks 0 init ++
        [byteSize (init ++ ['\n'])] := by
      simp [lineBreaks_append, lineBreaks]
    rw [last, List.length_append, List.length_singleton, List.getElem?_cons_succ,
      List.getElem?_concat_length, Option.getD_some]

/-- A cursor over `text` that remembers the plain position of a boundary. -/
structure Cursor.Sound (text : String) (cursor : Cursor) : Prop where
  text_eq : cursor.text = text
  lineStarts_eq : cursor.lineStarts = lineStartsOf text
  last_eq : ∃ before after, text.toList = before ++ after ∧ cursor.last = Position.after before

theorem Cursor.sound_ofText (text : String) : (Cursor.ofText text).Sound text :=
  ⟨rfl, rfl, [], text.toList, rfl, rfl⟩

theorem Cursor.Sound.lineOf_eq {text : String} {cursor : Cursor} (sound : cursor.Sound text)
    {before after : List Char} (whole : text.toList = before ++ after) :
    cursor.lineOf (byteSize before) = (Position.after before).line := by
  rw [Cursor.lineOf, sound.lineStarts_eq, partitionPoint_lineStartsOf whole]
  rfl

/-- Whatever a sound cursor remembers, it counts the plain column. -/
theorem Cursor.Sound.columnOf_eq {text : String} {cursor : Cursor} (sound : cursor.Sound text)
    {before after : List Char} (whole : text.toList = before ++ after) :
    cursor.columnOf (Position.after before).line (byteSize before) =
      (Position.after before).column := by
  obtain ⟨known, unknown, whole', lastEq⟩ := sound.last_eq
  have same : known ++ unknown = before ++ after := whole'.symm.trans whole
  have lastOffset : cursor.last.offset = byteSize known := by rw [lastEq, Position.after]
  rw [Cursor.columnOf, sound.text_eq, sound.lineStarts_eq, lastOffset, lastEq]
  split
  · -- another line: the count starts where that line starts
    obtain ⟨front, line, rfl, oneLine, length, starts⟩ := exists_lastLine before
    have lineStart := getD_lineStartsOf whole oneLine starts
    have index : (Position.after (front ++ line)).line - 1 = (front ++ line).count '\n' := by
      simp only [Position.after, Nat.add_sub_cancel_left]
    rw [index, lineStart, byteSize_append, countBetween_eq whole, length, Nat.add_comm]
    rfl
  · rename_i sameLine
    simp only [ne_eq, Decidable.not_not] at sameLine
    split
    · -- forwards on the same line
      rename_i forwards
      obtain ⟨more, rfl⟩ := exists_append_of_byteSize_le same forwards
      rw [byteSize_append, countBetween_eq whole, column_after_append sameLine]
    · -- backwards on the same line; the characters between are part of the column remembered
      rename_i backwards
      obtain ⟨more, rfl⟩ := exists_append_of_byteSize_le same.symm (Nat.le_of_not_le backwards)
      rw [byteSize_append, countBetween_eq whole', column_after_append sameLine.symm,
        Nat.add_sub_cancel]

/-- A sound cursor finds the plain position of every boundary. -/
theorem Cursor.Sound.find_eq {text : String} {cursor : Cursor} (sound : cursor.Sound text)
    {offset : Nat} (boundary : Boundary text.toList offset) :
    cursor.find offset = Position.ofOffset text.toList offset := by
  obtain ⟨before, after, whole, rfl⟩ := boundary
  rw [Cursor.find, sound.lineOf_eq whole, sound.columnOf_eq whole, whole,
    Position.ofOffset_byteSize]
  rfl

/-- Looking a boundary up leaves a sound cursor. -/
theorem Cursor.Sound.moveTo {text : String} {cursor : Cursor} (sound : cursor.Sound text)
    {offset : Nat} (boundary : Boundary text.toList offset) :
    (cursor.moveTo offset).Sound text where
  text_eq := sound.text_eq
  lineStarts_eq := sound.lineStarts_eq
  last_eq := by
    have found := sound.find_eq boundary
    obtain ⟨before, after, whole, rfl⟩ := boundary
    refine ⟨before, after, whole, ?_⟩
    rw [Cursor.moveTo, found, whole, Position.ofOffset_byteSize]

/-! ## Computations that look positions up -/

section Locates

variable {text : String} {α β : Type}

/-- From every sound cursor over the text, the computation gives `result` and
leaves a sound cursor. -/
def Locates (text : String) (action : Locating α) (result : α) : Prop :=
  ∀ cursor : Cursor, cursor.Sound text →
    (action.run cursor).1 = result ∧ (action.run cursor).2.Sound text

theorem Locates.pure (result : α) : Locates text (pure result : Locating α) result :=
  fun _ sound => ⟨rfl, sound⟩

theorem Locates.bind {action : Locating α} {next : α → Locating β} {middle : α} {result : β}
    (first : Locates text action middle) (second : Locates text (next middle) result) :
    Locates text (action >>= next) result := by
  intro cursor sound
  obtain ⟨found, sound'⟩ := first cursor sound
  have rest := second _ sound'
  rw [← found] at rest
  exact rest

theorem Locates.map {action : Locating α} {middle : α} (found : Locates text action middle)
    (f : α → β) : Locates text (f <$> action) (f middle) := by
  rw [map_eq_pure_bind]
  exact found.bind (Locates.pure _)

theorem Locates.mapM {f : α → Locating β} {g : α → β} {items : List α}
    (each : ∀ item ∈ items, Locates text (f item) (g item)) :
    Locates text (items.mapM f) (items.map g) := by
  induction items with
  | nil => exact Locates.pure []
  | cons item items ih =>
      rw [List.mapM_cons, List.map_cons]
      have first := each item List.mem_cons_self
      have others := ih fun other mem => each other (List.mem_cons_of_mem item mem)
      exact first.bind (others.bind (Locates.pure _))

theorem locates_positionAt {offset : Nat} (boundary : Boundary text.toList offset) :
    Locates text (positionAt offset) (Position.ofOffset text.toList offset) :=
  fun _ sound => ⟨sound.find_eq boundary, sound.moveTo boundary⟩

theorem locates_locationAt {start stop : Nat} (startBoundary : Boundary text.toList start)
    (stopBoundary : Boundary text.toList stop) :
    Locates text (locationAt start stop)
      ⟨Position.ofOffset text.toList start, Position.ofOffset text.toList stop⟩ :=
  (locates_positionAt startBoundary).bind ((locates_positionAt stopBoundary).bind (Locates.pure _))

end Locates

end MarkupLint.Markup
