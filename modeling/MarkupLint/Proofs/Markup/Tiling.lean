import MarkupLint.Proofs.Markup.Nodes

/-!
# The forest of a text tiles it

Nothing of a text is lost, and nothing is read twice. The roots of its forest follow each other
from its beginning to its end, and the children of an element do so between its opening tag and
its end. Every token holds the characters that stand in the text where the token says it stands.
-/

namespace MarkupLint.Markup

/-! ## Tokens -/

/-- The characters stand in the text at the byte offset. -/
def StandsAt (text : String) (offset : Nat) (chars : List Char) : Prop :=
  ∃ before after, text.toList = before ++ chars ++ after ∧ byteSize before = offset

/-- The token holds the characters of the text between its two offsets. -/
def Token.IsSliceOf (text : String) (token : Token) : Prop :=
  StandsAt text token.loc.start.offset token.chars.toList ∧
    token.loc.stop.offset = token.loc.start.offset + byteSize token.chars.toList

/-- The tokens of an attribute. -/
def Attribute.tokens (attr : Attribute) : List Token :=
  attr.name :: attr.value.toList

/-- The tokens of a tag: its names and those of its attributes. -/
def Tag.tokens (tag : Tag) : List Token :=
  tag.opening :: tag.closing.toList ++ tag.attributes.flatMap Attribute.tokens

/-- The tokens of a node itself, without those inside it. -/
def Node.tokens : Node → List Token
  | .element tag _ => tag.tokens
  | .text token => [token]
  | .comment token => [token]
  | .doctype token => [token]

theorem Slice.Within.standsAt {text : String} {slice : Slice}
    (within : slice.Within (Slice.ofText text)) : StandsAt text slice.start slice.chars := by
  obtain ⟨before, after, chars, start⟩ := within
  exact ⟨before, after, chars, by rw [start]; simp [ofText]⟩

theorem Slice.Within.isSliceOf {text : String} {slice : Slice}
    (within : slice.Within (Slice.ofText text)) : (slice.token text).IsSliceOf text := by
  have start := Position.offset_ofOffset within.boundary.1
  have stop := Position.offset_ofOffset within.boundary.2
  simp only [Token.IsSliceOf, token, Token.new, String.toList_ofList, start, stop]
  exact ⟨within.standsAt, rfl⟩

/-- Every token of an attribute is that of a part of the text. -/
theorem AttributeLexeme.LiesIn.exists_slice {text : String} {lexeme : AttributeLexeme}
    (inText : lexeme.LiesIn text) {token : Token} (mem : token ∈ (lexeme.place text).tokens) :
    ∃ slice : Slice, slice.Within (Slice.ofText text) ∧ token = slice.token text := by
  rcases List.mem_cons.mp mem with rfl | value
  · exact ⟨lexeme.name, inText.name, rfl⟩
  · simp only [place, Attribute.new, Option.mem_toList, Option.map_eq_some_iff] at value
    obtain ⟨slice, written, rfl⟩ := value
    exact ⟨slice, (inText.value slice written).1, rfl⟩

/-- Every token of an element is that of a part of the text. -/
theorem ElementRead.exists_slice {text : String} {above : List String} {slice rest : Slice}
    {tag : Tag} {children : List Node} (element : ElementRead text above slice tag children rest)
    (inText : slice.Ends (Slice.ofText text)) {token : Token} (mem : token ∈ tag.tokens) :
    ∃ part : Slice, part.Within (Slice.ofText text) ∧ token = part.token text := by
  obtain ⟨opening, raw?, inner, tail, closing, read, content, ending, rfl⟩ := element.exists_parts
  have inside := read.liesIn inText
  simp only [Tag.tokens, List.cons_append, List.mem_cons, List.mem_append, List.mem_flatMap] at mem
  rcases mem with rfl | closer | ⟨attr, attrMem, tokenMem⟩
  · exact ⟨opening.name, inside.name, rfl⟩
  · cases ending with
    | unclosed => simp [Tag.endAt] at closer
    | @closed whole name _ lead close =>
        have within := tail.readClosing_name_within
        rw [close] at within
        refine ⟨name, within.trans (content.ends.trans (read.ends.trans inText)).within, ?_⟩
        simpa [Tag.endAt, eq_comm] using closer
  · obtain ⟨lexeme, lexemeMem, rfl⟩ := List.mem_map.mp attrMem
    exact (inside.attributes lexeme lexemeMem).exists_slice tokenMem

/-! ## Spans -/

/-- The nodes follow each other from `start` to `stop`, and none is empty. -/
def Tiles : Nat → List Node → Nat → Prop
  | start, [], stop => start = stop
  | start, node :: nodes, stop =>
      node.loc.start.offset = start ∧ start < node.loc.stop.offset ∧
        Tiles node.loc.stop.offset nodes stop

theorem Tiles.le {start stop : Nat} {nodes : List Node} (tiles : Tiles start nodes stop) :
    start ≤ stop := by
  induction nodes generalizing start with
  | nil => exact Nat.le_of_eq tiles
  | cons node nodes ih =>
      obtain ⟨-, later, more⟩ := tiles
      exact Nat.le_trans (Nat.le_of_lt later) (ih more)

/-- Only no nodes at all tile an empty span. -/
theorem Tiles.eq_nil {start : Nat} {nodes : List Node} (tiles : Tiles start nodes start) :
    nodes = [] := by
  cases nodes with
  | nil => rfl
  | cons node nodes =>
      obtain ⟨-, later, more⟩ := tiles
      exact absurd (Nat.lt_of_lt_of_le later more.le) (Nat.lt_irrefl start)

/-- The offsets between which an attribute stands. -/
def Attribute.span (attr : Attribute) : Nat × Nat :=
  (attr.loc.start.offset, attr.loc.stop.offset)

/-- The offset at which the content of an element ends: that of its closing tag, if it has one,
which begins with two characters in front of the name. -/
def Tag.contentStop (tag : Tag) : Nat :=
  match tag.closing with
  | some closing => closing.loc.start.offset - 2
  | none => tag.loc.stop.offset

/-- How an element frames its children: its name stands behind the bracket, the attributes follow
one behind the other, and from where the opening tag ends the children tile the text up to the
closing tag, if there is one, or to the end of the element. -/
structure Tag.Frames (text : String) (tag : Tag) (children : List Node) : Prop where
  bracket : StandsAt text tag.loc.start.offset ['<']
  name : tag.opening.loc.start.offset = tag.loc.start.offset + 1
  content : ∃ contentStart, InOrder tag.opening.loc.stop.offset (tag.attributes.map Attribute.span)
    contentStart ∧ Tiles contentStart children tag.contentStop
  closer : ∀ closing, tag.closing = some closing →
    closing.loc.start.offset = tag.contentStop + 2 ∧ StandsAt text tag.contentStop ['<', '/']
  stop : tag.contentStop ≤ tag.loc.stop.offset

theorem Node.LeafOf.loc_eq {text : String} {whole : Slice} {node : Node}
    (kind : node.LeafOf text whole) : node.loc = (whole.token text).loc := by
  rcases kind with rfl | rfl | rfl <;> rfl

theorem Leaf.span {text : String} {above : List String} {slice rest : Slice} {node : Node}
    (leaf : Leaf text above slice node rest) (inText : slice.Ends (Slice.ofText text)) :
    node.loc.start.offset = slice.start ∧ node.loc.stop.offset = rest.start ∧
      slice.start < rest.start := by
  obtain ⟨whole, splits, nonempty, kind⟩ := leaf.exists_whole
  have within := splits.within.trans inText.within
  have start := Position.offset_ofOffset within.boundary.1
  have stop := Position.offset_ofOffset within.boundary.2
  rw [kind.loc_eq, ← splits.start, splits.next]
  exact ⟨start, stop, Slice.start_lt_stop nonempty⟩

/-- The name in a closing tag stands behind the two characters with which the tag begins. -/
theorem Ending.closer {text : String} {tail rest : Slice} {closing : Option Token}
    (ending : Ending text tail closing rest) (inText : tail.Ends (Slice.ofText text))
    {token : Token} (written : closing = some token) :
    token.loc.start.offset = tail.start + 2 ∧ StandsAt text tail.start ['<', '/'] := by
  cases ending with
  | unclosed => cases written
  | @closed whole name _ lead close =>
      obtain rfl := Option.some.inj written
      obtain ⟨c, chars, front, letter⟩ := Lead.exists_of_eq_closing lead
      have stands := tail.readClosing_name_eq front
      have within := tail.readClosing_name_within.trans inText.within
      rw [close] at stands within
      have start := Position.offset_ofOffset within.boundary.1
      constructor
      · exact start.trans (congrArg Slice.start stands)
      · obtain ⟨before, after, whole, size⟩ := inText.within.standsAt
        exact ⟨before, c :: chars ++ after, by simp [whole, front], size⟩

theorem Ending.contentStop {text : String} {tail rest : Slice} {closing : Option Token}
    (ending : Ending text tail closing rest) (inText : tail.Ends (Slice.ofText text)) (tag : Tag) :
    (tag.endAt closing (Position.ofOffset text.toList rest.start)).contentStop = tail.start := by
  cases written : closing with
  | none =>
      subst written
      cases ending
      exact Position.offset_ofOffset inText.within.boundary.1
  | some token =>
      simp only [Tag.contentStop, Tag.endAt]
      rw [(ending.closer inText written).1, Nat.add_sub_cancel]

theorem ElementRead.span {text : String} {above : List String} {slice rest : Slice} {tag : Tag}
    {children : List Node} (element : ElementRead text above slice tag children rest)
    (inText : slice.Ends (Slice.ofText text)) :
    tag.loc.start.offset = slice.start ∧ tag.loc.stop.offset = rest.start ∧
    slice.start < rest.start := by
  obtain ⟨opening, raw?, inner, tail, closing, read, content, ending, rfl⟩ := element.exists_parts
  have restEnds := ending.ends.trans content.ends
  have restInText := restEnds.trans (read.ends.trans inText)
  refine ⟨?_, ?_, ?_⟩
  · change (Position.ofOffset text.toList opening.start).offset = slice.start
    rw [read.start]
    exact Position.offset_ofOffset inText.within.boundary.1
  · exact Position.offset_ofOffset restInText.within.boundary.1
  · calc
      slice.start = opening.start := read.start.symm
      _ < opening.stop := read.start_lt_stop
      _ = inner.start := read.stop
      _ ≤ rest.start := restEnds.start_le

theorem NodeRead.span {text : String} {above : List String} {slice rest : Slice} {node : Node}
    (read : NodeRead text above slice node rest) (inText : slice.Ends (Slice.ofText text)) :
    node.loc.start.offset = slice.start ∧ node.loc.stop.offset = rest.start ∧
      slice.start < rest.start := by
  cases read with
  | leaf leaf => exact leaf.span inText
  | element element => exact element.span inText

/-- Raw text is tiled by its one node, if it is not empty. -/
theorem tiles_rawNodes {text : String} {slice content rest : Slice}
    (splits : slice.Splits content rest) (inText : slice.Ends (Slice.ofText text)) :
    Tiles slice.start (rawNodes text content) rest.start := by
  have within := splits.within.trans inText.within
  have start := Position.offset_ofOffset within.boundary.1
  have stop := Position.offset_ofOffset within.boundary.2
  rw [← splits.start, splits.next]
  unfold rawNodes
  split
  · rename_i empty
    simp [Tiles, Slice.stop, List.isEmpty_iff.mp empty]
  · rename_i nonempty
    have later : content.start < content.stop :=
      Slice.start_lt_stop fun empty => nonempty (by simp [empty])
    exact ⟨start, Nat.lt_of_lt_of_eq later stop.symm, stop⟩

/-- Nodes that are laid out tile the text from where they are read to what they leave. -/
theorem Laid.tiles {text : String} {raw? : Option String} {above : List String}
    {slice rest : Slice} {nodes : List Node} (laid : Laid text raw? above slice nodes rest)
    (inText : slice.Ends (Slice.ofText text)) : Tiles slice.start nodes rest.start := by
  cases raw? with
  | some name =>
      cases laid with
      | raw split => exact tiles_rawNodes (Slice.splits_of_cut split) inText
  | none =>
      induction nodes generalizing slice with
      | nil =>
          cases laid
          rfl
      | cons node nodes ih =>
          obtain ⟨middle, read, more⟩ := laid.exists_middle
          obtain ⟨start, stop, later⟩ := read.span inText
          refine ⟨start, ?_, ?_⟩
          · rwa [stop]
          · rw [stop]
            exact ih (read.ends.trans inText) more

/-- The attributes of an opening tag stand behind its name, one behind the other, and behind them
the end of the tag. It is a slash and a bracket if the tag closes itself. -/
theorem OpeningLexeme.ReadFrom.exists_mark {text : String} {tag : OpeningLexeme}
    {slice inner : Slice} (read : tag.ReadFrom slice inner)
    (inText : slice.Ends (Slice.ofText text)) :
    ∃ mark : Slice, mark.Ends (Slice.ofText text) ∧ inner.Ends mark ∧
      InOrder (tag.place text).opening.loc.stop.offset
        ((tag.place text).attributes.map Attribute.span) mark.start ∧
      (tag.selfClosing = true → mark.chars = '/' :: '>' :: inner.chars) := by
  have inside := read.liesIn inText
  obtain ⟨body, bodyEnds, bodyStart, reads⟩ := read.exists_body
  obtain ⟨mark, markEnds, innerEnds, ordered, selfClosing⟩ := reads.exists_end
  have nameStop : (tag.place text).opening.loc.stop.offset = body.start :=
    (Position.offset_ofOffset inside.name.boundary.2).trans bodyStart.symm
  have spans : (tag.place text).attributes.map Attribute.span =
      tag.attributes.map AttributeLexeme.span := by
    simp only [place, List.map_map]
    refine List.map_congr_left fun lexeme mem => ?_
    have lexemeIn := inside.attributes lexeme mem
    simp only [Function.comp_apply, Attribute.span, lexemeIn.loc_place, AttributeLexeme.span,
      Position.offset_ofOffset lexemeIn.boundary.1, Position.offset_ofOffset lexemeIn.boundary.2]
  rw [nameStop, spans]
  exact ⟨mark, markEnds.trans (bodyEnds.trans inText), innerEnds, ordered, selfClosing⟩

theorem ElementRead.frames {text : String} {above : List String} {slice rest : Slice} {tag : Tag}
    {children : List Node} (element : ElementRead text above slice tag children rest)
    (inText : slice.Ends (Slice.ofText text)) : tag.Frames text children := by
  obtain ⟨start, stop, -⟩ := element.span inText
  obtain ⟨opening, raw?, inner, tail, closing, read, content, ending, rfl⟩ := element.exists_parts
  have innerInText := read.ends.trans inText
  have tailInText := content.ends.trans innerInText
  have contentStop := ending.contentStop tailInText (opening.place text)
  constructor
  · obtain ⟨body, front, -, -⟩ := read.body
    obtain ⟨before, after, whole, size⟩ := inText.within.standsAt
    rw [start]
    exact ⟨before, opening.name.chars ++ body.chars ++ after, by simp [whole, front], size⟩
  · rw [start, ← read.name_start]
    exact Position.offset_ofOffset (read.liesIn inText).name.boundary.1
  · rw [contentStop]
    obtain ⟨mark, -, innerEnds, ordered, -⟩ := read.exists_mark inText
    exact ⟨inner.start, ordered.le_upper innerEnds.start_le, content.tiles innerInText⟩
  · intro token written
    rw [contentStop]
    exact ending.closer tailInText written
  · rw [contentStop, stop]
    exact ending.ends.start_le

/-! ## Whole texts -/

/-- A node stands in the text where it says it does: its tokens are parts of the text, it is not
empty, and if it is an element it frames its children. -/
structure Node.StandsIn (text : String) (node : Node) : Prop where
  tokens : ∀ token ∈ node.tokens, token.IsSliceOf text
  nonempty : node.loc.start.offset < node.loc.stop.offset
  frames : ∀ tag children, node = .element tag children → tag.Frames text children

theorem Node.LeafOf.standsIn {text : String} {whole : Slice} {node : Node}
    (kind : node.LeafOf text whole) (within : whole.Within (Slice.ofText text))
    (nonempty : whole.chars ≠ []) : node.StandsIn text := by
  have tokens : node.tokens = [whole.token text] := by
    rcases kind with rfl | rfl | rfl <;> rfl
  constructor
  · rw [tokens]
    exact List.forall_mem_singleton.mpr within.isSliceOf
  · rw [kind.loc_eq, Slice.token, Token.new, Position.offset_ofOffset within.boundary.1,
      Position.offset_ofOffset within.boundary.2]
    exact Slice.start_lt_stop nonempty
  · rcases kind with rfl | rfl | rfl <;> exact fun _ _ impossible => nomatch impossible

theorem ElementRead.standsIn {text : String} {above : List String} {slice rest : Slice} {tag : Tag}
    {children : List Node} (element : ElementRead text above slice tag children rest)
    (inText : slice.Ends (Slice.ofText text)) : (Node.element tag children).StandsIn text := by
  constructor
  · intro token mem
    obtain ⟨part, within, rfl⟩ := element.exists_slice inText mem
    exact within.isSliceOf
  · obtain ⟨start, stop, later⟩ := element.span inText
    change tag.loc.start.offset < tag.loc.stop.offset
    rwa [start, stop]
  · rintro _ _ ⟨rfl, rfl⟩
    exact element.frames inText

/-- The roots of the forest of a text tile it, so that only the empty text has none. Every node of
the forest stands in the text where it says it does, and every element is tiled by its children
between its opening tag and its end. -/
theorem parse_tiles_text (text : String) :
    Tiles 0 (parse text) text.utf8ByteSize ∧ (parse text = [] ↔ text = "") ∧
      ∀ node ∈ preorder (parse text), node.StandsIn text := by
  obtain ⟨last, finished, laid⟩ := parse_laid text
  have whole := Slice.Ends.refl (Slice.ofText text)
  have lastStart : last.start = text.utf8ByteSize := by
    have stop := laid.ends.stop_eq
    rw [Slice.stop, finished, byteSize_nil, Slice.stop] at stop
    simpa [Slice.ofText, byteSize_eq_utf8Len] using stop
  have tiles : Tiles 0 (parse text) text.utf8ByteSize := lastStart ▸ laid.tiles whole
  refine ⟨tiles, ⟨?_, ?_⟩, ?_⟩
  · intro none
    rw [none] at tiles
    exact String.utf8ByteSize_eq_zero_iff.mp tiles.symm
  · rintro rfl
    exact tiles.eq_nil
  · refine laid.forall_preorder whole ?_ ?_ ?_
    · intro above slice node rest inText leaf
      obtain ⟨part, splits, nonempty, kind⟩ := leaf.exists_whole
      exact kind.standsIn (splits.within.trans inText.within) nonempty
    · intro content within nonempty
      have kind : (Node.text (content.token text)).LeafOf text content := Or.inl rfl
      exact kind.standsIn within nonempty
    · intro above slice tag children rest inText element
      exact element.standsIn inText

/-- An element whose content ends in front of its closing tag. -/
theorem parse_tiles_text_closed :
    ∃ tag children, Node.element tag children ∈ preorder (parse "<p a>é</P >") ∧
      tag.contentStop = 7 ∧ tag.Frames "<p a>é</P >" children := by
  have found : ((preorder (parse "<p a>é</P >")).any fun node =>
      node.tag?.any fun tag => tag.contentStop == 7) = true := by decide +kernel
  obtain ⟨node, mem, tagged⟩ := List.any_eq_true.mp found
  obtain ⟨tag, tag?, stop⟩ := (Option.any_eq_true _ _).mp tagged
  obtain ⟨-, -, stands⟩ := parse_tiles_text "<p a>é</P >"
  have element := Node.eq_element_of_tag? tag?
  exact ⟨tag, node.children, element ▸ mem, beq_iff_eq.mp stop,
    (stands node mem).frames tag _ element⟩

end MarkupLint.Markup
