import MarkupLint.Proofs.Markup.Codec
import MarkupLint.Proofs.Markup.Located
import MarkupLint.Proofs.Markup.Pairing

/-!
# Names in the elements of a forest

Every element of the forest of a text was read from some slice of it
(`exists_elementRead`). So the names that it holds stand in the text as names:
an attribute starts with the longest run of characters that can stand in the
name of one, and so does a closing name behind the two marks of its tag.
-/

namespace MarkupLint.Markup

/-- Every element of the forest of a text was read from what was left of the text at some point. -/
theorem exists_elementRead {text : String} {tag : Tag} {children : List Node}
    (mem : Node.element tag children ∈ preorder (parse text)) :
    ∃ above slice rest, slice.Ends (Slice.ofText text) ∧
      ElementRead text above slice tag children rest := by
  rcases parse_laid text with ⟨last, finished, laid⟩
  have each :=
    laid.forall_preorder (motive := fun node => ∀ tag children, node = .element tag children →
    ∃ above slice rest, slice.Ends (Slice.ofText text) ∧
      ElementRead text above slice tag children rest)
    (Slice.Ends.refl _) ?_ ?_ ?_
  · exact each _ mem tag children rfl
  · intro above slice node rest inText leaf tag children same
    rcases leaf.exists_whole with ⟨whole, _, _, rfl | rfl | rfl⟩ <;> contradiction
  · intro content within nonempty tag children same
    contradiction
  · rintro above slice tag children rest inText element _ _ ⟨rfl, rfl⟩
    exact ⟨above, slice, rest, inText, element⟩

/-! ## Runs of characters -/

/-- At the offset of the text stands the run: as many characters as pass the test. -/
def RunAt (text : String) (keep : Char → Bool) (offset : Nat) (run : List Char) : Prop :=
  ∃ before rest, text.toList = before ++ rest ∧ byteSize before = offset ∧
    run = rest.takeWhile keep

/-- At the offset of the text stands the name of a closing tag: two marks stand in front of it, it
begins with a letter, and it lasts as long as a name can. -/
def ClosingNameAt (text : String) (offset : Nat) (name : List Char) : Prop :=
  ∃ before c rest, text.toList = before ++ '<' :: '/' :: c :: rest ∧ byteSize before + 2 = offset ∧
    c.isAlpha = true ∧ name = (c :: rest).takeWhile isTagNameChar

theorem Slice.Ends.runAt {text : String} {slice : Slice} (inText : slice.Ends (Slice.ofText text))
    (keep : Char → Bool) : RunAt text keep slice.start (slice.splitWhile keep).1.chars := by
  rcases inText with ⟨before, chars, start⟩
  refine ⟨before, slice.chars, chars, ?_, chars_splitWhile_fst keep slice⟩
  rw [start, ofText, Nat.zero_add]

/-- The name of every attribute is all that can be read of a name where it starts. -/
theorem ReadsBody.exists_run {slice rest : Slice} {attributes : List AttributeLexeme}
    {selfClosing : Bool} (reads : ReadsBody slice attributes selfClosing rest) :
    ∀ attr ∈ attributes, ∃ source : Slice, source.Ends slice ∧
      attr.name = (source.splitWhile isAttributeNameChar).1 := by
  induction reads with
  | unended front | ended front | selfClosed front => simp
  | @slash slice _ _ _ _ front goesOn more ih =>
      intro attr mem
      rcases ih attr mem with ⟨source, ends, name⟩
      exact ⟨source, ends.trans ((Slice.drop_ends 1 _).trans slice.skipBlanks_ends), name⟩
  | @attr slice _ _ _ _ _ front starts more ih =>
      have read := Slice.readAttribute_readFrom front starts
      intro attr mem
      rcases List.mem_cons.mp mem with rfl | later
      · refine ⟨slice.skipBlanks, slice.skipBlanks_ends, ?_⟩
        unfold Slice.readAttribute
        simp only
        split <;> rfl
      · rcases ih attr later with ⟨source, ends, name⟩
        exact ⟨source, ends.trans (read.ends.trans slice.skipBlanks_ends), name⟩

namespace ElementRead

variable {text : String} {above : List String} {slice rest : Slice} {tag : Tag}
    {children : List Node}

/-- Every attribute starts with its name. -/
theorem runAt_attribute (element : ElementRead text above slice tag children rest)
    (inText : slice.Ends (Slice.ofText text)) {attr : Attribute} (mem : attr ∈ tag.attributes) :
    RunAt text isAttributeNameChar attr.loc.start.offset attr.name.chars.toList := by
  rcases element.exists_parts with ⟨opening, raw?, inner, tail, closing, read, content,
    ending, rfl⟩
  rcases List.mem_map.mp mem with ⟨lexeme, lexemeMem, rfl⟩
  rcases read.exists_body with ⟨body, bodyEnds, _, reads⟩
  rcases reads.exists_run lexeme lexemeMem with ⟨source, ends, name⟩
  have lexemeIn := (read.liesIn inText).attributes lexeme lexemeMem
  have start : lexeme.start = source.start := by
    rw [AttributeLexeme.start, name]
    rfl
  have chars : (lexeme.place text).name.chars.toList = lexeme.name.chars := String.toList_ofList
  rw [lexemeIn.loc_place, chars, name, Position.offset_ofOffset lexemeIn.boundary.1, start]
  exact (ends.trans (bodyEnds.trans inText)).runAt isAttributeNameChar

/-- The closing name stands behind the marks of its tag. -/
theorem closingNameAt (element : ElementRead text above slice tag children rest)
    (inText : slice.Ends (Slice.ofText text)) {closing : Token}
    (closed : tag.closing = some closing) :
    ClosingNameAt text closing.loc.start.offset closing.chars.toList := by
  rcases element.exists_parts with ⟨opening, raw?, inner, tail, ended, read, content, ending, rfl⟩
  have tailIn := content.ends.trans (read.ends.trans inText)
  have start := (ending.closer tailIn closed).1
  cases ending with
  | unclosed => cases closed
  | @closed whole name _ lead close =>
      rcases Lead.exists_of_eq_closing lead with ⟨c, chars, front, letter⟩
      rcases tailIn with ⟨before, whole, tailStart⟩
      have stands := tail.readClosing_name_eq front
      rw [close] at stands
      have named : name.chars = (c :: chars).takeWhile isTagNameChar := congrArg Slice.chars stands
      refine ⟨before, c, chars, ?_, ?_, letter, ?_⟩
      · rw [← front]
        exact whole
      · rw [start, tailStart, Slice.ofText, Nat.zero_add]
      · rw [← Option.some.inj closed]
        exact String.toList_ofList.trans named

/-- Behind the opening name there is room for the marks of the closing tag. -/
theorem opening_stop_lt (element : ElementRead text above slice tag children rest)
    (inText : slice.Ends (Slice.ofText text)) {closing : Token}
    (closed : tag.closing = some closing) :
    tag.opening.loc.stop.offset < closing.loc.start.offset := by
  have frames := element.frames inText
  rcases frames.content with ⟨contentStart, ordered, tiles⟩
  have behind := (frames.closer closing closed).1
  have first := ordered.le
  have second := tiles.le
  omega

end ElementRead

/-! ## Positions as words -/

theorem length_le_byteSize (chars : List Char) : chars.length ≤ byteSize chars := by
  induction chars with
  | nil => exact Nat.le_refl 0
  | cons c rest ih =>
      have positive := c.utf8Size_pos
      rw [List.length_cons, byteSize_cons]
      omega

/-- A position that leaves one byte of room is made of words: lines and columns count from one. -/
theorem Position.IsIn.fits {text : String} {position : Position} (inText : position.IsIn text)
    (room : position.offset < Json.Number.maxSignificand) : position.Fits := by
  rcases inText with ⟨front, _, rfl⟩
  have small := length_le_byteSize front
  have lines : front.count '\n' ≤ front.length := List.count_le_length
  have columns : Position.lastLineLength front ≤ front.length := by
    rw [← List.length_reverse]
    exact (List.takeWhile_sublist _).length_le
  have bound : byteSize front < Json.Number.maxSignificand := room
  constructor
  · exact Nat.le_trans (Nat.add_le_add_left (Nat.le_trans lines small) 1) (by omega)
  · exact Nat.le_trans (Nat.add_le_add_left (Nat.le_trans columns small) 1) (by omega)
  · exact Nat.le_of_lt bound

theorem Boundary.le {text : String} {offset : Nat} (boundary : Boundary text.toList offset) :
    offset ≤ text.utf8ByteSize := by
  rcases boundary with ⟨before, after, whole, rfl⟩
  have size : text.utf8ByteSize = byteSize text.toList := by
    rw [byteSize_eq_utf8Len]
    simp
  rw [size, whole, byteSize_append]
  exact Nat.le_add_right _ _

end MarkupLint.Markup
