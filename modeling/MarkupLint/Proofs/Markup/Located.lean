import MarkupLint.Proofs.Markup.Tiling

/-!
# Every stored position is the plain one

Positions are looked up by a cursor that remembers the last one, and a parser asks for them in no
fixed order. What it gets, and so what its nodes, tokens and attributes hold, is still the
position behind a front part of the text, as counted from its beginning.
-/

namespace MarkupLint.Markup

/-- The position is the one behind some front part of the text. -/
def Position.IsIn (text : String) (position : Position) : Prop :=
  ∃ front, front <+: text.toList ∧ position = Position.after front

/-- The locations stored in a tag: its own, those of its tokens and those of its attributes. -/
def Tag.locations (tag : Tag) : List Location :=
  tag.loc :: tag.tokens.map Token.loc ++ tag.attributes.map Attribute.loc

/-- The locations stored in a node, without those inside it. -/
def Node.locations : Node → List Location
  | .element tag _ => tag.locations
  | .text token => [token.loc]
  | .comment token => [token.loc]
  | .doctype token => [token.loc]

/-- Both ends of the location are positions in the text. -/
structure Location.IsIn (text : String) (loc : Location) : Prop where
  start : loc.start.IsIn text
  stop : loc.stop.IsIn text

theorem Location.isIn_ofOffset (text : String) (start stop : Nat) :
    Location.IsIn text ⟨Position.ofOffset text.toList start,
      Position.ofOffset text.toList stop⟩ where
  start := ⟨_, prefixTo_isPrefix start text.toList, rfl⟩
  stop := ⟨_, prefixTo_isPrefix stop text.toList, rfl⟩

/-- The cursor finds the position behind each of the front parts, in whatever order it is asked. -/
theorem locates_fronts {text : String} {fronts : List (List Char)}
    (divide : ∀ front ∈ fronts, front <+: text.toList) :
    Locates text ((fronts.map byteSize).mapM positionAt) (fronts.map Position.after) := by
  have each : ∀ offset ∈ fronts.map byteSize,
      Locates text (positionAt offset) (Position.ofOffset text.toList offset) := by
    intro offset mem
    obtain ⟨front, frontMem, rfl⟩ := List.mem_map.mp mem
    obtain ⟨after, whole⟩ := divide front frontMem
    exact locates_positionAt ⟨front, after, whole.symm, rfl⟩
  have plain : (fronts.map byteSize).map (Position.ofOffset text.toList) =
      fronts.map Position.after := by
    rw [List.map_map]
    refine List.map_congr_left fun front mem => ?_
    obtain ⟨after, whole⟩ := divide front mem
    rw [Function.comp_apply, ← whole, Position.ofOffset_byteSize]
  rw [← plain]
  exact Locates.mapM each

/-- The location of an attribute spans from the start of its name to the end of its value, or to
that of its name if it has no value. -/
def Attribute.Spanned (attr : Attribute) : Prop :=
  attr.loc = ⟨attr.name.loc.start, (attr.value.getD attr.name).loc.stop⟩

theorem AttributeLexeme.LiesIn.spanned {text : String} {lexeme : AttributeLexeme}
    (inText : lexeme.LiesIn text) : (lexeme.place text).Spanned := by
  rw [Attribute.Spanned, inText.loc_place]
  unfold stop
  cases written : lexeme.value with
  | none =>
      simp only [place, Attribute.new, written]
      rfl
  | some value =>
      simp only [place, Attribute.new, written]
      rfl

/-- What the positions say of one node: all are positions in the text, and
every attribute is spanned by its name and value. -/
structure Node.Located (text : String) (node : Node) : Prop where
  locations : ∀ loc ∈ node.locations, loc.IsIn text
  attributes : ∀ tag children, node = .element tag children → ∀ attr ∈ tag.attributes, attr.Spanned

theorem Node.LeafOf.located {text : String} {whole : Slice} {node : Node}
    (kind : node.LeafOf text whole) : node.Located text := by
  have locations : node.locations = [(whole.token text).loc] := by
    rcases kind with rfl | rfl | rfl <;> rfl
  constructor
  · rw [locations]
    exact List.forall_mem_singleton.mpr (Location.isIn_ofOffset text whole.start whole.stop)
  · rcases kind with rfl | rfl | rfl <;> exact fun _ _ impossible => nomatch impossible

theorem ElementRead.located {text : String} {above : List String} {slice rest : Slice} {tag : Tag}
    {children : List Node} (element : ElementRead text above slice tag children rest)
    (inText : slice.Ends (Slice.ofText text)) : (Node.element tag children).Located text := by
  have attributes : ∀ attr ∈ tag.attributes,
      ∃ lexeme : AttributeLexeme, lexeme.LiesIn text ∧ lexeme.place text = attr := by
    obtain ⟨opening, raw?, inner, tail, closing, read, content, ending, rfl⟩ :=
      element.exists_parts
    intro attr mem
    obtain ⟨lexeme, lexemeMem, placed⟩ := List.mem_map.mp mem
    exact ⟨lexeme, (read.liesIn inText).attributes lexeme lexemeMem, placed⟩
  constructor
  · intro loc mem
    simp only [Node.locations, Tag.locations, List.cons_append, List.mem_cons, List.mem_append,
      List.mem_map] at mem
    rcases mem with rfl | ⟨token, tokenMem, rfl⟩ | ⟨attr, attrMem, rfl⟩
    · obtain ⟨opening, raw?, inner, tail, closing, read, content, ending, rfl⟩ :=
        element.exists_parts
      exact Location.isIn_ofOffset text opening.start rest.start
    · obtain ⟨part, within, rfl⟩ := element.exists_slice inText tokenMem
      exact Location.isIn_ofOffset text part.start part.stop
    · obtain ⟨lexeme, lexemeIn, rfl⟩ := attributes attr attrMem
      rw [lexemeIn.loc_place]
      exact Location.isIn_ofOffset text lexeme.start lexeme.stop
  · rintro _ _ ⟨rfl, rfl⟩ attr attrMem
    obtain ⟨lexeme, lexemeIn, rfl⟩ := attributes attr attrMem
    exact lexemeIn.spanned

/-- A cursor over a text that is asked for the offsets behind front parts of
it, any number of them in any order, answers each with the plain position
behind that part. So all positions in the forest of a text are plain ones, and
every attribute spans from the start of its name to the end of its value. -/
theorem positions_plain (text : String) :
    (∀ fronts : List (List Char), (∀ front ∈ fronts, front <+: text.toList) →
      (((fronts.map byteSize).mapM positionAt).run (Cursor.ofText text)).1 =
        fronts.map Position.after) ∧
      ∀ node ∈ preorder (parse text), node.Located text := by
  constructor
  · intro fronts divide
    exact (locates_fronts divide _ (Cursor.sound_ofText text)).1
  · obtain ⟨last, finished, laid⟩ := parse_laid text
    refine laid.forall_preorder (Slice.Ends.refl _) ?_ ?_ ?_
    · intro above slice node rest inText leaf
      obtain ⟨part, -, -, kind⟩ := leaf.exists_whole
      exact kind.located
    · intro content within nonempty
      have kind : (Node.text (content.token text)).LeafOf text content := Or.inl rfl
      exact kind.located
    · intro above slice tag children rest inText element
      exact element.located inText

/-- Backwards, across a line break and behind a character of two bytes; and
the span of an attribute. -/
theorem positions_plain_backwards :
    (([5, 1, 2, 0].mapM positionAt).run (Cursor.ofText "a\né<p b = c>")).1 =
        [⟨2, 3, 5⟩, ⟨1, 2, 1⟩, ⟨2, 1, 2⟩, ⟨1, 1, 0⟩] ∧
      ∃ tag children, Node.element tag children ∈ preorder (parse "a\né<p b = c>") ∧
        tag.loc = ⟨⟨2, 2, 4⟩, ⟨2, 11, 13⟩⟩ ∧ ∀ loc ∈ tag.locations, loc.IsIn "a\né<p b = c>" := by
  obtain ⟨asked, nodes⟩ := positions_plain "a\né<p b = c>"
  constructor
  · exact asked ["a\né<".toList, "a".toList, "a\n".toList, []] (by decide)
  · have found : ((preorder (parse "a\né<p b = c>")).any fun node =>
        node.tag?.any fun tag => tag.loc == ⟨⟨2, 2, 4⟩, ⟨2, 11, 13⟩⟩) = true := by decide +kernel
    obtain ⟨node, mem, tagged⟩ := List.any_eq_true.mp found
    obtain ⟨tag, tag?, placed⟩ := (Option.any_eq_true _ _).mp tagged
    have element := Node.eq_element_of_tag? tag?
    rw [element] at mem
    exact ⟨tag, node.children, mem, beq_iff_eq.mp placed, (nodes _ mem).locations⟩

end MarkupLint.Markup
