import MarkupLint.Proofs.Markup.Elements
import MarkupLint.Proofs.Markup.Rereading

/-!
# What void and raw text elements hold

A void element holds nothing and is never closed. What stands behind the opening tag of a raw text
element is one text, up to the first closing tag of that element or to the end of the input, and
none of it is read as anything else. For the last, the nodes of a forest have to be told apart by
where they start: a node that starts inside another one is inside it (`Tiles.mem_of_startsIn`).
-/

namespace MarkupLint.Markup

/-! ## Nodes inside one another -/

/-- What holds of no nodes, and of nodes if it holds of the children of the
first one and of the others, holds of every forest. -/
theorem forest_induction {motive : List Node → Prop} (nil : motive [])
    (cons : ∀ first rest, motive first.children → motive rest → motive (first :: rest))
    (forest : List Node) : motive forest := by
  cases forest with
  | nil => exact nil
  | cons first rest =>
      exact cons first rest (forest_induction nil cons first.children)
        (forest_induction nil cons rest)
termination_by sizeOf forest
decreasing_by
  · cases first <;> simp [Node.children] <;> omega
  · simp

theorem mem_preorder_of_mem_children {child node : Node} (inside : child ∈ node.children) :
    ∀ {forest}, node ∈ preorder forest → child ∈ preorder forest := by
  intro forest
  induction forest using forest_induction with
  | nil => exact fun mem => absurd mem not_mem_preorder_nil
  | cons first rest ihInside ihLater =>
      intro mem
      rw [mem_preorder_cons_iff] at mem ⊢
      rcases mem with rfl | nested | later
      · exact Or.inr (Or.inl (mem_preorder_of_mem inside))
      · exact Or.inr (Or.inl (ihInside nested))
      · exact Or.inr (Or.inr (ihLater later))

/-- The children of the node tile a part of it that begins behind its start. -/
def Node.Encloses (node : Node) : Prop :=
  ∃ first last, node.loc.start.offset < first ∧ Tiles first node.children last ∧
    last ≤ node.loc.stop.offset

theorem Node.encloses_of_childless {node : Node} (childless : node.children = [])
    (nonempty : node.loc.start.offset < node.loc.stop.offset) : node.Encloses :=
  ⟨node.loc.stop.offset, node.loc.stop.offset, nonempty, by rw [childless]; rfl, Nat.le_refl _⟩

theorem Node.LeafOf.childless {text : String} {whole : Slice} {node : Node}
    (kind : node.LeafOf text whole) : node.children = [] := by
  rcases kind with rfl | rfl | rfl <;> rfl

theorem ElementRead.encloses {text : String} {above : List String} {slice rest : Slice} {tag : Tag}
    {children : List Node} (element : ElementRead text above slice tag children rest)
    (inText : slice.Ends (Slice.ofText text)) : (Node.element tag children).Encloses := by
  rcases element.span inText with ⟨start, stop, -⟩
  rcases element.exists_parts with ⟨opening, raw?, inner, tail, closing, read, content,
    ending, rfl⟩
  refine ⟨inner.start, tail.start, ?_, content.tiles (read.ends.trans inText), ?_⟩
  · calc
      _ = slice.start := start
      _ = opening.start := read.start.symm
      _ < opening.stop := read.start_lt_stop
      _ = inner.start := read.stop
  · calc
      tail.start ≤ rest.start := ending.ends.start_le
      _ = _ := stop.symm

/-- Every node of the forest of a text encloses its children. -/
theorem encloses_of_mem_parse {text : String} : ∀ node ∈ preorder (parse text), node.Encloses := by
  rcases parse_laid text with ⟨last, -, laid⟩
  refine laid.forall_preorder (motive := Node.Encloses)
    (Slice.Ends.refl (Slice.ofText text)) ?_ ?_ ?_
  · intro above slice node rest inText leaf
    rcases leaf.exists_whole with ⟨whole, -, -, kind⟩
    rcases leaf.span inText with ⟨start, stop, later⟩
    exact Node.encloses_of_childless kind.childless (by rwa [start, stop])
  · intro content within nonempty
    apply Node.encloses_of_childless rfl
    change (Position.ofOffset text.toList content.start).offset <
      (Position.ofOffset text.toList content.stop).offset
    rw [Position.offset_ofOffset within.boundary.1, Position.offset_ofOffset within.boundary.2]
    exact Slice.start_lt_stop nonempty
  · intro above slice tag children rest inText element
    exact element.encloses inText

theorem Node.Encloses.start_lt_stop {node : Node} (encloses : node.Encloses) :
    node.loc.start.offset < node.loc.stop.offset := by
  rcases encloses with ⟨first, last, later, tiles, inside⟩
  exact Nat.lt_of_lt_of_le later (Nat.le_trans tiles.le inside)

/-- Every node of a forest lies in what its roots tile. -/
theorem Tiles.bounds {forest : List Node} (enclosing : ∀ node ∈ preorder forest, node.Encloses) :
    ∀ {start stop}, Tiles start forest stop → ∀ node ∈ preorder forest,
      start ≤ node.loc.start.offset ∧ node.loc.stop.offset ≤ stop := by
  induction forest using forest_induction with
  | nil => exact fun _ node mem => absurd mem not_mem_preorder_nil
  | cons first rest ihInside ihLater =>
      rintro start stop ⟨begins, later, more⟩ node mem
      rcases enclosing first (mem_preorder_cons_iff.mpr (Or.inl rfl)) with
        ⟨innerStart, innerStop, behind, inner, inside⟩
      rcases mem_preorder_cons_iff.mp mem with rfl | nested | following
      · exact ⟨Nat.le_of_eq begins.symm, more.le⟩
      · have bounds := ihInside
          (fun node mem => enclosing node (mem_preorder_cons_iff.mpr (Or.inr (Or.inl mem))))
          inner node nested
        have stopLe := more.le
        omega
      · have bounds := ihLater
          (fun node mem => enclosing node (mem_preorder_cons_iff.mpr (Or.inr (Or.inr mem))))
          more node following
        omega

/-- A node that starts inside another one is that node or inside it. -/
theorem Tiles.mem_of_startsIn {forest : List Node}
    (enclosing : ∀ node ∈ preorder forest, node.Encloses) :
    ∀ {start stop}, Tiles start forest stop → ∀ outer ∈ preorder forest, ∀ node ∈ preorder forest,
      outer.loc.start.offset ≤ node.loc.start.offset →
      node.loc.start.offset < outer.loc.stop.offset →
      node = outer ∨ node ∈ preorder outer.children := by
  induction forest using forest_induction with
  | nil => exact fun _ outer mem => absurd mem not_mem_preorder_nil
  | cons first rest ihInside ihLater =>
      rintro start stop ⟨begins, later, more⟩ outer outerMem node nodeMem behind before
      rcases enclosing first (mem_preorder_cons_iff.mpr (Or.inl rfl)) with
        ⟨innerStart, innerStop, opens, inner, closes⟩
      have nestedEnclosing : ∀ node ∈ preorder first.children, node.Encloses :=
        fun node mem => enclosing node (mem_preorder_cons_iff.mpr (Or.inr (Or.inl mem)))
      have laterEnclosing : ∀ node ∈ preorder rest, node.Encloses :=
        fun node mem => enclosing node (mem_preorder_cons_iff.mpr (Or.inr (Or.inr mem)))
      have nestedBounds := Tiles.bounds nestedEnclosing inner
      have laterBounds := Tiles.bounds laterEnclosing more
      -- two nodes in different parts of the forest have different spans
      rcases mem_preorder_cons_iff.mp outerMem with rfl | outerNested | outerLater
      · rcases mem_preorder_cons_iff.mp nodeMem with rfl | nested | following
        · exact Or.inl rfl
        · exact Or.inr nested
        · have bounds := laterBounds node following
          omega
      · have outerBounds := nestedBounds outer outerNested
        rcases mem_preorder_cons_iff.mp nodeMem with rfl | nested | following
        · omega
        · exact ihInside nestedEnclosing inner outer outerNested node nested behind before
        · have bounds := laterBounds node following
          omega
      · have outerBounds := laterBounds outer outerLater
        rcases mem_preorder_cons_iff.mp nodeMem with rfl | nested | following
        · omega
        · have bounds := nestedBounds node nested
          have nonempty := (nestedEnclosing node nested).start_lt_stop
          omega
        · exact ihLater laterEnclosing more outer outerLater node following behind before

/-! ## Closing tags of raw text -/

/-- The characters begin with a closing tag of the name: its letters in any case, and behind them
a blank, a slash, a bracket or nothing. -/
def ClosesRaw (name : String) (chars : List Char) : Prop :=
  ∃ written rest, chars = '<' :: '/' :: (written ++ rest) ∧
    written.map Char.toLower = name.toList ∧
    ∀ c ∈ rest.head?, c ∈ [' ', '\t', '\n', '\x0c', '\r', '/', '>']

theorem isTagNameChar_eq_false_iff {c : Char} :
    isTagNameChar c = false ↔ c ∈ [' ', '\t', '\n', '\x0c', '\r', '/', '>'] := by
  simp [isTagNameChar, Text.isBlank, imp_iff_not_or, or_assoc]

theorem endsRawText_iff_closesRaw {name : String} {chars : List Char} :
    endsRawText name.toList chars = true ↔ ClosesRaw name chars := by
  constructor
  · intro ends
    unfold endsRawText at ends
    split at ends
    · rcases closesName_eq_true_iff.mp ends with ⟨written, rest, rfl, lower, stops⟩
      exact ⟨written, rest, rfl, lower, fun c head => isTagNameChar_eq_false_iff.mp (stops c head)⟩
    · cases ends
  · rintro ⟨written, rest, rfl, lower, stops⟩
    exact closesName_eq_true_iff.mpr
      ⟨written, rest, rfl, lower, fun c head => isTagNameChar_eq_false_iff.mpr (stops c head)⟩

/-- With `after` behind it, `content` lasts up to the first closing tag of the
name, or to the end if there is none. -/
structure LastsUpToCloser (name : String) (content after : List Char) : Prop where
  passed : ∀ earlier later, content = earlier ++ later → later ≠ [] →
  ¬ ClosesRaw name (later ++ after)
  ends : after = [] ∨ ClosesRaw name after

theorem lastsUpToCloser_cutBefore (name : String) (chars : List Char) :
    LastsUpToCloser name (cutBefore (endsRawText name.toList) chars).1
      (cutBefore (endsRawText name.toList) chars).2 := by
  constructor
  · intro earlier later split some closes
    have fails := stop_eq_false_of_passed split some
    rw [endsRawText_iff_closesRaw.mpr closes] at fails
    cases fails
  · cases left : (cutBefore (endsRawText name.toList) chars).2 with
    | nil => exact Or.inl rfl
    | cons c rest => exact Or.inr (endsRawText_iff_closesRaw.mp (cutBefore_snd_eq_cons left))

/-- There is a closing tag at all if something is left behind the content. -/
theorem LastsUpToCloser.exists_closer_iff {name : String} {content after : List Char}
    (lasts : LastsUpToCloser name content after) :
    (∃ earlier later, content ++ after = earlier ++ later ∧ ClosesRaw name later) ↔
      after ≠ [] := by
  constructor
  · rintro ⟨earlier, later, split, closes⟩ rfl
    rw [List.append_nil] at split
    apply lasts.passed earlier later split
    · rintro rfl
      rcases closes with ⟨written, rest, impossible, -⟩
      cases impossible
    · rwa [List.append_nil]
  · intro some
    exact ⟨content, after, rfl, lasts.ends.resolve_left some⟩

/-! ## The two kinds of elements -/

/-- The nodes are one text with the characters from the offset on, or none if
there are no characters. -/
def AreText (children : List Node) (offset : Nat) (content : List Char) : Prop :=
  (content = [] ∧ children = []) ∨
    (content ≠ [] ∧ ∃ token : Token, children = [.text token] ∧ token.chars.toList = content ∧
      token.loc.start.offset = offset ∧ token.loc.stop.offset = offset + byteSize content)

/-- What a raw text element holds if its opening tag leaves `inner` of the
text: the `content`, as one text. The element is closed exactly if a closing
tag of it follows, and then by the first one. -/
structure Tag.HoldsRaw (tag : Tag) (children : List Node) (inner : Slice)
    (content after : List Char) :
    Prop where
  split : inner.chars = content ++ after
  lasts : LastsUpToCloser tag.name content after
  text : AreText children inner.start content
  closed : tag.closing.isSome = true ↔
    ∃ earlier later, inner.chars = earlier ++ later ∧ ClosesRaw tag.name later
  closer : ∀ close, tag.closing = some close → ClosesRaw tag.name after ∧
    close.loc.start.offset = inner.start + byteSize content + 2 ∧
    close.chars.toList.map Char.toLower = tag.name.toList

theorem areText_rawNodes {text : String} {content : Slice}
    (within : content.Within (Slice.ofText text)) :
    AreText (rawNodes text content) content.start content.chars := by
  unfold rawNodes
  split
  · rename_i empty
    exact Or.inl ⟨List.isEmpty_iff.mp empty, rfl⟩
  · rename_i nonempty
    refine Or.inr ⟨fun empty => nonempty (List.isEmpty_iff.mpr empty), content.token text, rfl,
      ?_, ?_, ?_⟩
    · exact String.toList_ofList
    · exact Position.offset_ofOffset within.boundary.1
    · exact Position.offset_ofOffset within.boundary.2

/-- A node that starts in the text is the text. -/
theorem mem_of_startsIn_areText {text : String} {children : List Node} {offset : Nat}
    {content : List Char} (isText : AreText children offset content)
    (inForest : ∀ child ∈ children, child ∈ preorder (parse text)) {node : Node}
    (mem : node ∈ preorder (parse text)) (behind : offset ≤ node.loc.start.offset)
    (before : node.loc.start.offset < offset + byteSize content) : node ∈ children := by
  rcases isText with ⟨rfl, rfl⟩ | ⟨-, token, rfl, -, start, stop⟩
  · rw [byteSize_nil] at before
    omega
  · rcases parse_laid text with ⟨last, -, laid⟩
    have tiles := laid.tiles (Slice.Ends.refl (Slice.ofText text))
    have startsIn :=
      tiles.mem_of_startsIn encloses_of_mem_parse _ (inForest _ List.mem_cons_self) node mem
    rw [← start] at behind
    rw [← stop] at before
    rcases startsIn behind before with rfl | nested
    · exact List.mem_cons_self
    · exact absurd nested not_mem_preorder_nil

/-- Raw text that is laid out is one text, up to the first closing tag. -/
theorem Laid.exists_rawContent {text name : String} {above : List String} {inner tail : Slice}
    {children : List Node} (laid : Laid text (some name) above inner children tail)
    (inText : inner.Ends (Slice.ofText text)) :
    ∃ content : List Char, inner.chars = content ++ tail.chars ∧
      tail.start = inner.start + byteSize content ∧ LastsUpToCloser name content tail.chars ∧
      AreText children inner.start content := by
  cases laid with
  | @raw _ _ _ content _ split =>
      have splits := Slice.splits_of_cut split
      have lasts := lastsUpToCloser_cutBefore name inner.chars
      have contentChars : (cutBefore (endsRawText name.toList) inner.chars).1 = content.chars :=
        congrArg (fun parts : Slice × Slice => parts.1.chars) split
      have tailChars : (cutBefore (endsRawText name.toList) inner.chars).2 = tail.chars :=
        congrArg (fun parts : Slice × Slice => parts.2.chars) split
      have isText := areText_rawNodes (splits.within.trans inText.within)
      rw [contentChars, tailChars] at lasts
      rw [splits.start] at isText
      exact ⟨content.chars, splits.chars, by rw [splits.next, Slice.stop, splits.start], lasts,
        isText⟩

/-- The closing tag that ends raw text has its name in it. -/
theorem Slice.map_toLower_closingName {name : String} (raw : isRawTextElement name = true)
    {slice whole closer after : Slice} (closes : ClosesRaw name slice.chars)
    (read : slice.readClosing = (whole, closer, after)) :
    closer.chars.map Char.toLower = name.toList := by
  rcases letters_of_isRawTextElement raw with ⟨alpha, -⟩
  have ends := endsRawText_iff_closesRaw.mpr closes
  rcases closes with ⟨written, rest, front, -⟩
  have stands : closer = ⟨slice.start + 2, (written ++ rest).takeWhile isTagNameChar⟩ := by
    rw [← readClosing_name_eq front, read]
  rw [front] at ends
  rw [stands]
  exact map_toLower_takeWhile_of_closesName alpha ends

/-- An element holds raw text that is laid out, if it is closed exactly where
something is left behind it. -/
theorem Tag.exists_holdsRaw {text : String} {above : List String} {inner tail rest : Slice}
    {tag : Tag} {children : List Node}
    (laid : Laid text (some tag.name) above inner children tail)
    (inText : inner.Ends (Slice.ofText text)) (raw : isRawTextElement tag.name = true)
    (ending : Ending text tail tag.closing rest)
    (closed : tag.closing.isSome = true ↔ tail.chars ≠ []) :
    ∃ content after, tag.HoldsRaw children inner content after := by
  rcases laid.exists_rawContent inText with ⟨content, split, tailStart, lasts, isText⟩
  refine ⟨content, tail.chars, split, lasts, isText, ?_, ?_⟩
  · rw [closed, split]
    exact lasts.exists_closer_iff.symm
  · intro close written
    have start := (ending.closer (laid.ends.trans inText) written).1
    rw [written] at ending closed
    have closes := lasts.ends.resolve_left (closed.mp rfl)
    cases ending with
    | @closed whole name _ lead read =>
        have lowered := Slice.map_toLower_closingName raw closes read
        have chars : (name.token text).chars.toList = name.chars := String.toList_ofList
        exact ⟨closes, by rw [start, tailStart], by rw [chars, lowered]⟩

theorem not_isVoidElement_of_raw {name : String} (raw : isRawTextElement name = true) :
    isVoidElement name = false := by
  have mem : name ∈ rawTextElements := List.contains_iff_mem.mp raw
  simp only [rawTextElements, List.mem_cons, List.not_mem_nil, or_false] at mem
  rcases mem with rfl | rfl <;> rfl

namespace ElementRead

variable {text : String} {above : List String} {slice rest : Slice} {tag : Tag}
    {children : List Node}

theorem eq_nil_of_void (element : ElementRead text above slice tag children rest)
    (void : isVoidElement tag.name = true) : children = [] ∧ tag.closing = none := by
  have standsAlone : ∀ {lexeme : OpeningLexeme}, isVoidElement lexeme.elementName = true →
      lexeme.standsAlone = true := by
    intro lexeme void
    rw [OpeningLexeme.standsAlone, void, Bool.or_true]
  cases element with
  | alone read stands => exact ⟨rfl, rfl⟩
  | closed read contains content closes close =>
      exact Bool.noConfusion ((standsAlone void).symm.trans contains)
  | cut read contains content cutsOff =>
      exact Bool.noConfusion ((standsAlone void).symm.trans contains)

/-- A raw text element closes itself and holds nothing, or holds what stands
up to its closing tag. -/
theorem holdsRaw (element : ElementRead text above slice tag children rest)
    (inText : slice.Ends (Slice.ofText text)) (raw : isRawTextElement tag.name = true) :
    ∃ opening inner, slice.readOpening = (opening, inner) ∧
      ((opening.selfClosing = true ∧ children = [] ∧ tag.closing = none) ∨
        (opening.selfClosing = false ∧
          ∃ content after, tag.HoldsRaw children inner content after)) := by
  have rawName : ∀ {lexeme : OpeningLexeme}, lexeme.standsAlone = false →
      isRawTextElement lexeme.elementName = true → lexeme.rawName? = some lexeme.elementName := by
    intro lexeme contains raw
    rw [OpeningLexeme.rawName?, OpeningLexeme.opensRawText, contains, raw]
    rfl
  have selfClosing : ∀ {lexeme : OpeningLexeme}, isRawTextElement lexeme.elementName = true →
      lexeme.selfClosing = lexeme.standsAlone := by
    intro lexeme raw
    rw [OpeningLexeme.standsAlone, not_isVoidElement_of_raw raw, Bool.or_false]
  cases element with
  | @alone opening _ read stands =>
      exact ⟨opening, rest, read.read, Or.inl ⟨(selfClosing raw).trans stands, rfl, rfl⟩⟩
  | @closed opening inner tail whole name _ _ read contains content closes close =>
      rw [rawName contains raw] at content
      have left : tail.chars ≠ [] := Slice.chars_ne_nil_of_lead closes.lead (by decide)
      refine ⟨opening, inner, read.read, Or.inr ⟨(selfClosing raw).trans contains, ?_⟩⟩
      exact Tag.exists_holdsRaw content (read.ends.trans inText) raw (.closed closes.lead close)
        ⟨fun _ => left, fun _ => rfl⟩
  | @cut opening inner _ _ read contains content cutsOff =>
      rw [rawName contains raw] at content
      have finished : rest.chars = [] := by
        rcases cutsOff with finished | ⟨lead, unmatched⟩
        · exact finished
        · rcases content.closes_of_raw raw with finished | closes
          · exact finished
          · exact Bool.noConfusion (closes.matching.symm.trans unmatched)
      refine ⟨opening, inner, read.read, Or.inr ⟨(selfClosing raw).trans contains, ?_⟩⟩
      exact Tag.exists_holdsRaw content (read.ends.trans inText) raw .unclosed
        ⟨fun closed => Bool.noConfusion closed, fun left => absurd finished left⟩

end ElementRead

/-! ## Whole texts -/

/-- A void element holds nothing and is never closed. A raw text element, whose
opening tag can be read again where it starts, holds nothing if that tag closes
itself; otherwise it holds as one text what stands in front of the first closing tag
of its name, which is the one that closes it, and no other node starts there. -/
theorem void_and_rawText_contents (text : String) (tag : Tag) (children : List Node)
    (mem : Node.element tag children ∈ preorder (parse text)) :
    (isVoidElement tag.name = true → children = [] ∧ tag.closing = none) ∧
      (isRawTextElement tag.name = true →
        ∃ (slice : Slice) (opening : OpeningLexeme) (inner : Slice),
          slice.Ends (Slice.ofText text) ∧
          slice.start = tag.loc.start.offset ∧ slice.readOpening = (opening, inner) ∧
          ((opening.selfClosing = true ∧ children = [] ∧ tag.closing = none) ∨
            (opening.selfClosing = false ∧
              ∃ content after, tag.HoldsRaw children inner content after ∧
                ∀ node ∈ preorder (parse text), inner.start ≤ node.loc.start.offset →
                  node.loc.start.offset < inner.start + byteSize content →
                  node ∈ children))) := by
  rcases exists_elementRead mem with ⟨above, slice, rest, inText, element⟩
  constructor
  · exact element.eq_nil_of_void
  · intro raw
    have start := (element.span inText).1.symm
    rcases element.holdsRaw inText raw with
      ⟨opening, inner, read, alone | ⟨contains, content, after, holds⟩⟩
    · exact ⟨slice, opening, inner, inText, start, read, Or.inl alone⟩
    · refine ⟨slice, opening, inner, inText, start, read,
        Or.inr ⟨contains, content, after, holds, ?_⟩⟩
      intro node nodeMem behind before
      exact mem_of_startsIn_areText holds.text
        (fun child inside => mem_preorder_of_mem_children inside mem)
        nodeMem behind before

/-- A void element, and a script closed in other letters behind what only
looks like its closing tag. -/
theorem void_and_rawText_contents_script :
    (∃ tag children, Node.element tag children ∈
      preorder (parse "<br><SCRIPT a>é</scripts></sCript >x") ∧
      isVoidElement tag.name = true ∧ children = [] ∧ tag.closing = none) ∧
    ∃ tag children inner content after,
      Node.element tag children ∈ preorder (parse "<br><SCRIPT a>é</scripts></sCript >x") ∧
      isRawTextElement tag.name = true ∧ children.map Node.label = ["é</scripts>"] ∧
      tag.closing.map Token.chars = some "sCript" ∧ tag.HoldsRaw children inner content after := by
  have foundVoid : ((preorder (parse "<br><SCRIPT a>é</scripts></sCript >x")).any fun node =>
      node.tag?.any fun tag => isVoidElement tag.name) = true := by decide +kernel
  have foundRaw : ((preorder (parse "<br><SCRIPT a>é</scripts></sCript >x")).any fun node =>
      node.children.map Node.label == ["é</scripts>"] && node.tag?.any fun tag =>
        isRawTextElement tag.name && tag.closing.map Token.chars == some "sCript") =
          true := by decide +kernel
  simp only [List.any_eq_true, Option.any_eq_true, Bool.and_eq_true,
    beq_iff_eq] at foundVoid foundRaw
  rcases foundVoid with ⟨voidNode, voidMem, voidTag, voidTag?, void⟩
  rcases foundRaw with ⟨rawNode, rawMem, labels, rawTag, rawTag?, raw, closing⟩
  rw [Node.eq_element_of_tag? voidTag?] at voidMem
  rw [Node.eq_element_of_tag? rawTag?] at rawMem
  constructor
  · exact ⟨voidTag, _, voidMem, void, (void_and_rawText_contents _ voidTag _ voidMem).1 void⟩
  · rcases (void_and_rawText_contents _ rawTag _ rawMem).2 raw with
      ⟨slice, opening, inner, -, -, -, ⟨-, empty, -⟩ | ⟨-, content, after, holds, -⟩⟩
    · rw [empty] at labels
      cases labels
    · exact ⟨rawTag, _, inner, content, after, rawMem, raw, labels, closing, holds⟩

end MarkupLint.Markup
