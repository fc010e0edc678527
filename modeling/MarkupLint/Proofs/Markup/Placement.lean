import MarkupLint.Markup.Forest
import MarkupLint.Proofs.Markup.Lookup
import MarkupLint.Proofs.Markup.Reading

/-!
# Where lexemes stand

All lexemes of a text are made of parts of it, so their ends are boundaries and the cursor finds
their plain positions. Locating is therefore a plain function of the lexeme: `Lexeme.place` gives
each slice the positions of its two ends.
-/

namespace MarkupLint.Markup

/-! ## Placing by plain positions -/

/-- The token of a part of the text. -/
def Slice.token (text : String) (slice : Slice) : Token :=
  Token.new (String.ofList slice.chars)
    ⟨Position.ofOffset text.toList slice.start, Position.ofOffset text.toList slice.stop⟩

/-- The attribute whose slices are parts of the text. -/
def AttributeLexeme.place (text : String) (lexeme : AttributeLexeme) : Attribute :=
  Attribute.new (lexeme.name.token text) (lexeme.value.map (Slice.token text))

/-- The tag whose slices are parts of the text. -/
def OpeningLexeme.place (text : String) (lexeme : OpeningLexeme) : Tag where
  name := lexeme.elementName
  attributes := lexeme.attributes.map (AttributeLexeme.place text)
  opening := lexeme.name.token text
  closing := none
  loc := ⟨Position.ofOffset text.toList lexeme.start, Position.ofOffset text.toList lexeme.stop⟩

/-- The event of a lexeme whose slices are parts of the text. -/
def Lexeme.place (text : String) : Lexeme → Event
  | .text slice => .text (slice.token text)
  | .comment slice => .comment (slice.token text)
  | .doctype slice => .doctype (slice.token text)
  | .opening lexeme => .opening (lexeme.place text) lexeme.standsAlone
  | .closing whole name => .closing (whole.token text) (name.token text)

/-! ## Lexemes are parts of their text -/

/-- The slices of an attribute are parts of the text, the value behind the name. -/
structure AttributeLexeme.LiesIn (text : String) (lexeme : AttributeLexeme) : Prop where
  name : lexeme.name.Within (Slice.ofText text)
  value : ∀ value, lexeme.value = some value →
    value.Within (Slice.ofText text) ∧ lexeme.name.stop < value.start

/-- The slices of an opening tag are parts of the text, and so is what lies between its ends. -/
structure OpeningLexeme.LiesIn (text : String) (lexeme : OpeningLexeme) : Prop where
  start : Boundary text.toList lexeme.start
  stop : Boundary text.toList lexeme.stop
  name : lexeme.name.Within (Slice.ofText text)
  attributes : ∀ attr ∈ lexeme.attributes, attr.LiesIn text

/-- The slices of a lexeme are parts of the text. -/
def Lexeme.LiesIn (text : String) : Lexeme → Prop
  | .text slice => slice.Within (Slice.ofText text)
  | .comment slice => slice.Within (Slice.ofText text)
  | .doctype slice => slice.Within (Slice.ofText text)
  | .opening lexeme => lexeme.LiesIn text
  | .closing whole name => whole.Within (Slice.ofText text) ∧ name.Within (Slice.ofText text)

/-- An attribute spans from the start of its name to the end of its value. -/
theorem AttributeLexeme.LiesIn.loc_place {text : String} {lexeme : AttributeLexeme}
    (inText : lexeme.LiesIn text) :
    (lexeme.place text).loc =
      ⟨Position.ofOffset text.toList lexeme.start, Position.ofOffset text.toList lexeme.stop⟩ := by
  cases written : lexeme.value with
  | none =>
      simp only [place, Attribute.new, written, stop]
      rfl
  | some value =>
      obtain ⟨within, behind⟩ := inText.value value written
      have starts : lexeme.name.start ≤ value.start :=
        Nat.le_trans lexeme.name.start_le_stop (Nat.le_of_lt behind)
      have stops : lexeme.name.stop < value.stop := Nat.lt_of_lt_of_le behind value.start_le_stop
      simp only [place, Attribute.new, written, stop, Option.map_some, Option.getD_some]
      exact Location.cover_ofOffset inText.name.boundary.1 inText.name.boundary.2 within.boundary.1
        within.boundary.2 starts stops

theorem AttributeLexeme.LiesIn.boundary {text : String} {lexeme : AttributeLexeme}
    (inText : lexeme.LiesIn text) :
    Boundary text.toList lexeme.start ∧ Boundary text.toList lexeme.stop := by
  refine ⟨inText.name.boundary.1, ?_⟩
  unfold stop
  cases written : lexeme.value with
  | none => exact inText.name.boundary.2
  | some value => exact (inText.value value written).1.boundary.2

theorem OpeningLexeme.ReadFrom.liesIn {text : String} {tag : OpeningLexeme} {slice rest : Slice}
    (read : tag.ReadFrom slice rest) (inText : slice.Ends (Slice.ofText text)) :
    tag.LiesIn text where
  start := by
    rw [read.start]
    exact inText.within.boundary.1
  stop := by
    rw [read.stop]
    exact (read.ends.trans inText).within.boundary.1
  name := read.name_within.trans inText.within
  attributes := by
    obtain ⟨body, bodyEnds, -, reads⟩ := read.exists_body
    have outer := (bodyEnds.trans inText).within
    intro attr mem
    obtain ⟨name, value⟩ := reads.within attr mem
    exact ⟨name.trans outer, fun v eq => ⟨(value v eq).1.trans outer, (value v eq).2⟩⟩

theorem Slice.next_liesIn {text : String} {slice : Slice} (inText : slice.Ends (ofText text)) :
    ∀ lexeme ∈ slice.next.1, lexeme.LiesIn text := by
  have inside : ∀ {part rest : Slice}, slice.Splits part rest → part.Within (ofText text) :=
    fun splits => splits.within.trans inText.within
  unfold next
  split
  · exact List.forall_mem_singleton.mpr (inside slice.readComment_splits)
  · exact List.forall_mem_singleton.mpr (inside (slice.splitThrough_splits _))
  · exact List.forall_mem_singleton.mpr
      ⟨inside slice.readClosing_splits, slice.readClosing_name_within.trans inText.within⟩
  · rename_i lead
    have read := readOpening_readFrom lead
    have tag := read.liesIn inText
    simp only
    split
    · -- the raw text is cut from what the tag leaves
      have content := (cut_splits (endsRawText slice.readOpening.1.elementName.toList)
        slice.readOpening.2).within.trans (read.ends.trans inText).within
      intro lexeme mem
      rcases List.mem_cons.mp mem with rfl | raw
      · exact tag
      · simp only [readRawText] at raw
        split at raw
        · simp at raw
        · obtain rfl := List.mem_singleton.mp raw
          exact content
    · exact List.forall_mem_singleton.mpr tag
  · exact List.forall_mem_singleton.mpr (inside slice.readText_splits)

theorem scan_liesIn {text : String} (slice : Slice) (inText : slice.Ends (Slice.ofText text)) :
    ∀ lexeme ∈ scan slice, lexeme.LiesIn text := by
  induction slice using scan_induction with
  | done slice finished => simp [scan_of_chars_eq_nil finished]
  | step slice unread ih =>
      rw [scan_of_chars_ne_nil unread]
      intro lexeme mem
      rcases List.mem_append.mp mem with first | later
      · exact Slice.next_liesIn inText lexeme first
      · exact ih (Slice.next_ends.trans inText) lexeme later

/-! ## Locating is placing -/

variable {text : String}

theorem Slice.Within.locates {slice : Slice} (within : slice.Within (Slice.ofText text)) :
    Locates text slice.locate (slice.token text) :=
  (locates_locationAt within.boundary.1 within.boundary.2).bind (Locates.pure _)

theorem AttributeLexeme.LiesIn.locates {lexeme : AttributeLexeme} (inText : lexeme.LiesIn text) :
    Locates text lexeme.locate (lexeme.place text) := by
  obtain ⟨name, value⟩ := inText
  refine name.locates.bind ?_
  cases written : lexeme.value with
  | none =>
      simp only [AttributeLexeme.place, written]
      exact Locates.pure _
  | some slice =>
      simp only [AttributeLexeme.place, written]
      exact (value slice written).1.locates.bind (Locates.pure _)

theorem OpeningLexeme.LiesIn.locates {lexeme : OpeningLexeme} (inText : lexeme.LiesIn text) :
    Locates text lexeme.locate (lexeme.place text) := by
  have attributes := Locates.mapM fun attr mem => (inText.attributes attr mem).locates
  exact inText.name.locates.bind (attributes.bind ((locates_positionAt inText.start).bind
    ((locates_positionAt inText.stop).bind (Locates.pure _))))

theorem Lexeme.LiesIn.locates {lexeme : Lexeme} (inText : lexeme.LiesIn text) :
    Locates text lexeme.locate (lexeme.place text) := by
  cases lexeme with
  | text slice => exact (Slice.Within.locates inText).map Event.text
  | comment slice => exact (Slice.Within.locates inText).map Event.comment
  | doctype slice => exact (Slice.Within.locates inText).map Event.doctype
  | opening lexeme => exact (OpeningLexeme.LiesIn.locates inText).bind (Locates.pure _)
  | closing whole name => exact inText.2.locates.bind (inText.1.locates.bind (Locates.pure _))

/-- Reading a text is building the forest of its lexemes, each at its plain positions. -/
theorem parse_eq_forestOf_place (text : String) :
    parse text = forestOf ((scan (Slice.ofText text)).map (Lexeme.place text))
      (Position.ofOffset text.toList (Slice.ofText text).stop) := by
  have whole := Slice.Ends.refl (Slice.ofText text)
  have events := Locates.mapM fun lexeme mem =>
    (scan_liesIn (Slice.ofText text) whole lexeme mem).locates
  have located : Locates text
      (do
        let events ← (scan (Slice.ofText text)).mapM Lexeme.locate
        let stop ← positionAt (Slice.ofText text).stop
        return (events, stop))
      ((scan (Slice.ofText text)).map (Lexeme.place text),
        Position.ofOffset text.toList (Slice.ofText text).stop) :=
    events.bind ((locates_positionAt whole.within.boundary.2).bind (Locates.pure _))
  have found := (located (Cursor.ofText text) (Cursor.sound_ofText text)).1
  exact congrArg (fun found : List Event × Position => forestOf found.1 found.2) found

end MarkupLint.Markup
