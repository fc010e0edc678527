import MarkupLint.Proofs.Markup.Tiling

/-!
# Closing tags pair with the innermost open element

A closing tag ends the innermost element of its name that is still open. In the finished forest
this shows in three ways: the names of every element match; a closing tag that was left as text
stands inside no element of its name; and the elements that a closing tag cut off, which are the
unclosed ones at the end of the element it closes, are not of its name.
-/

namespace MarkupLint.Markup

/-! ## Where a node stands -/

/-- `Descends forest above node`: the node stands in the forest inside the
elements with the tags `above`, outermost first. -/
inductive Descends : List Node → List Tag → Node → Prop where
  | here {forest : List Node} {node : Node} (mem : node ∈ forest) : Descends forest [] node
  | down {forest children : List Node} {tag : Tag} {above : List Tag} {node : Node}
      (mem : .element tag children ∈ forest) (inside : Descends children above node) :
      Descends forest (tag :: above) node

/-- `Trails nodes tag children`: the element is the last of the nodes, or trails the children of
the last, and neither it nor those around it are closed. -/
inductive Trails : List Node → Tag → List Node → Prop where
  | last {nodes children : List Node} {tag : Tag}
      (last : nodes.getLast? = some (.element tag children))
      (unclosed : tag.closing = none) : Trails nodes tag children
  | deeper {nodes inner children : List Node} {outer tag : Tag}
      (last : nodes.getLast? = some (.element outer inner)) (unclosed : outer.closing = none)
      (inside : Trails inner tag children) : Trails nodes tag children

/-- Every node of the forest outside raw text was read inside the elements around the forest. -/
theorem Laid.exists_nodeRead {text : String} {above : List String} {slice rest : Slice}
    {nodes : List Node} {node : Node} (laid : Laid text none above slice nodes rest)
    (mem : node ∈ nodes) :
    ∃ start stop, start.Ends slice ∧ NodeRead text above start node stop := by
  induction nodes generalizing slice with
  | nil => cases mem
  | cons first others ih =>
      obtain ⟨middle, read, more⟩ := laid.exists_middle
      rcases List.mem_cons.mp mem with rfl | later
      · exact ⟨slice, middle, Slice.Ends.refl slice, read⟩
      · obtain ⟨start, stop, ends, found⟩ := ih more later
        exact ⟨start, stop, ends.trans read.ends, found⟩

/-- An element at the end of nodes was read up to what they leave. -/
theorem Laid.exists_elementRead {text : String} {raw? : Option String} {above : List String}
    {slice rest : Slice} {nodes children : List Node} {tag : Tag}
    (laid : Laid text raw? above slice nodes rest)
    (last : nodes.getLast? = some (.element tag children)) :
    ∃ start, start.Ends slice ∧ ElementRead text above start tag children rest := by
  cases raw? with
  | some name =>
      cases laid with
      | raw split =>
          obtain ⟨text, -⟩ := mem_rawNodes (List.mem_of_getLast? last)
          cases text
  | none =>
      induction nodes generalizing slice with
      | nil => cases last
      | cons first others ih =>
          obtain ⟨middle, read, more⟩ := laid.exists_middle
          cases others with
          | nil =>
              cases more
              obtain rfl : first = .element tag children := by simpa using last
              cases read with
              | leaf leaf => cases leaf
              | element element => exact ⟨slice, Slice.Ends.refl slice, element⟩
          | cons second others =>
              obtain ⟨start, ends, element⟩ := ih (by simpa using last) more
              exact ⟨start, ends.trans read.ends, element⟩

/-! ## Names -/

theorem Slice.closerName_of_readClosing {slice whole name after : Slice}
    (read : slice.readClosing = (whole, name, after)) :
    slice.closerName = String.ofList name.chars := by
  rw [closerName, read]

/-- An element is matched by its written name in lower case, and closed only
by a name that matches. -/
theorem ElementRead.names {text : String} {above : List String} {slice rest : Slice} {tag : Tag}
    {children : List Node} (element : ElementRead text above slice tag children rest) :
    tag.name = Text.lowercase tag.opening.chars ∧
      ∀ close, tag.closing = some close → Text.namesMatch tag.name close.chars = true := by
  cases element with
  | alone read stands => exact ⟨rfl, fun close impossible => nomatch impossible⟩
  | closed read contains content closes close =>
      refine ⟨rfl, ?_⟩
      rintro _ ⟨rfl⟩
      have matching := closes.matching
      rw [Slice.closerName_of_readClosing close] at matching
      exact matching
  | cut read contains content cutsOff => exact ⟨rfl, fun close impossible => nomatch impossible⟩

/-! ## Closing tags that close nothing -/

theorem Slice.head?_splitThrough (test : Char → Bool) (slice : Slice) :
    (slice.splitThrough test).1.chars.head? = slice.chars.head? := by
  change ((slice.splitWhile fun c => !test c).1.chars ++
    (slice.splitWhile fun c => !test c).2.chars.take 1).head? = _
  rw [chars_splitWhile_fst, chars_splitWhile_snd]
  cases slice.chars with
  | nil => rfl
  | cons c rest => cases marked : test c <;> simp [marked]

/-- The name in a closing tag can be read off the whole of it. -/
theorem Slice.closerName_eq_of_whole {slice : Slice} {rest : List Char}
    (written : slice.readClosing.1.chars = '<' :: '/' :: rest) :
    slice.closerName = String.ofList (rest.takeWhile isTagNameChar) := by
  have kept : ∀ c ∈ slice.readClosing.2.1.chars, isTagNameChar c = true := by
    change ∀ c ∈ ((slice.drop 2).splitWhile isTagNameChar).1.chars, isTagNameChar c = true
    rw [chars_splitWhile_fst]
    exact fun c mem => List.mem_takeWhile_imp mem
  have whole : slice.readClosing.1.chars = slice.chars.take 2 ++ slice.readClosing.2.1.chars ++
      (((slice.drop 2).splitWhile isTagNameChar).2.splitThrough (· == '>')).1.chars := rfl
  have stops :
      (((slice.drop 2).splitWhile isTagNameChar).2.splitThrough (· == '>')).1.chars.takeWhile
      isTagNameChar = [] := by
    have head := head?_splitThrough (· == '>') ((slice.drop 2).splitWhile isTagNameChar).2
    have fails := List.head?_dropWhile_not isTagNameChar (slice.drop 2).chars
    rw [chars_splitWhile_snd] at head
    rw [← head] at fails
    generalize (((slice.drop 2).splitWhile isTagNameChar).2.splitThrough (· == '>')).1.chars =
      last at fails
    cases last with
    | nil => rfl
    | cons c more => simpa using fails
  have marks : slice.chars.take 2 = ['<', '/'] := by
    rw [slice.readClosing_splits.chars, written]
    rfl
  rw [written, marks] at whole
  simp only [List.cons_append, List.nil_append, List.cons.injEq, true_and] at whole
  rw [closerName, whole, List.takeWhile_append_of_pos kept, stops, List.append_nil]

/-- The text of the token begins like a closing tag. -/
def Token.BeginsClosing (token : Token) : Prop :=
  ∃ letter rest, token.chars.toList = '<' :: '/' :: letter :: rest ∧ letter.isAlpha = true

/-- The name in a token that begins like a closing tag. -/
def Token.closerName (token : Token) : String :=
  String.ofList ((token.chars.toList.drop 2).takeWhile isTagNameChar)

/-- A text that begins like a closing tag is one that matched none of the elements around it. -/
theorem Leaf.unmatched {text : String} {above : List String} {slice rest : Slice} {token : Token}
    (leaf : Leaf text above slice (.text token) rest) (begins : token.BeginsClosing) :
    ∀ name ∈ above, Text.namesMatch name token.closerName = false := by
  obtain ⟨letter, chars, written, alpha⟩ := begins
  cases leaf with
  | @text whole _ unread lead read =>
      -- such a text would have been read as a closing tag
      have splits := slice.readText_splits
      rw [read] at splits
      have front : whole.chars = '<' :: '/' :: letter :: chars := by
        simpa [Slice.token, Token.new] using written
      rw [splits.chars, front, List.cons_append, List.cons_append, List.cons_append,
        Lead.of_closing alpha] at lead
      cases lead
  | @stray whole name _ lead read unmatched =>
      have front : slice.readClosing.1.chars = '<' :: '/' :: letter :: chars := by
        rw [read]
        simpa [Slice.token, Token.new] using written
      rw [Slice.closerName_eq_of_whole front] at unmatched
      rw [Token.closerName, written]
      exact unmatched

/-- The content of an element that holds no raw text is laid out inside its name. -/
theorem ElementRead.exists_content {text : String} {above : List String} {slice rest : Slice}
    {tag : Tag} {children : List Node} (element : ElementRead text above slice tag children rest)
    (ordinary : isRawTextElement tag.name = false) :
    ∃ inner tail, inner.Ends slice ∧ Laid text none (tag.name :: above) inner children tail := by
  have notRaw : ∀ {lexeme : OpeningLexeme}, isRawTextElement lexeme.elementName = false →
      lexeme.rawName? = none := by
    intro lexeme ordinary
    simp [OpeningLexeme.rawName?, OpeningLexeme.opensRawText, ordinary]
  cases element with
  | alone read stands => exact ⟨rest, rest, read.ends, .nil⟩
  | @closed lexeme inner tail _ _ _ _ read contains content closes close =>
      rw [notRaw ordinary] at content
      exact ⟨inner, tail, read.ends, content⟩
  | @cut lexeme inner _ _ read contains content cutsOff =>
      rw [notRaw ordinary] at content
      exact ⟨inner, rest, read.ends, content⟩

/-- A node outside raw text was read inside the elements around it and those around the forest. -/
theorem Descends.exists_nodeRead {text : String} {forest : List Node} {ancestors : List Tag}
    {node : Node} (descends : Descends forest ancestors node)
    (ordinary : ∀ tag ∈ ancestors, isRawTextElement tag.name = false) {above : List String}
    {slice rest : Slice} (laid : Laid text none above slice forest rest) :
    ∃ start stop, start.Ends slice ∧
      NodeRead text ((ancestors.map Tag.name).reverse ++ above) start node stop := by
  -- on the way down to the node, the elements passed join those around the forest
  induction descends generalizing above slice rest with
  | here mem => exact laid.exists_nodeRead mem
  | @down forest children tag ancestors node mem inside ih =>
      obtain ⟨start, stop, ends, read⟩ := laid.exists_nodeRead mem
      obtain ⟨tagOrdinary, othersOrdinary⟩ := List.forall_mem_cons.mp ordinary
      cases read with
      | leaf leaf => cases leaf
      | element element =>
          obtain ⟨inner, tail, innerEnds, content⟩ := element.exists_content tagOrdinary
          obtain ⟨nodeStart, nodeStop, nodeEnds, found⟩ := ih othersOrdinary content
          refine ⟨nodeStart, nodeStop, nodeEnds.trans (innerEnds.trans ends), ?_⟩
          rwa [List.map_cons, List.reverse_cons, List.append_assoc]

/-- A text that begins like a closing tag matches no element around it. -/
theorem Descends.unmatched {text : String} {forest : List Node} {ancestors : List Tag}
    {token : Token} (descends : Descends forest ancestors (.text token))
    (begins : token.BeginsClosing)
    (ordinary : ∀ tag ∈ ancestors, isRawTextElement tag.name = false) {slice rest : Slice}
    (laid : Laid text none [] slice forest rest) :
    ∀ tag ∈ ancestors, Text.namesMatch tag.name token.closerName = false := by
  intro tag mem
  obtain ⟨start, stop, -, read⟩ := descends.exists_nodeRead ordinary laid
  cases read with
  | leaf leaf =>
      apply leaf.unmatched begins
      rw [List.append_nil, List.mem_reverse]
      exact List.mem_map_of_mem mem

/-! ## Elements that were cut off -/

/-- The tag is written with a slash in front of its closing bracket that
belongs to no attribute. -/
def Tag.WrittenSelfClosing (text : String) (tag : Tag) : Prop :=
  StandsAt text (tag.loc.stop.offset - 2) ['/', '>'] ∧
    ∀ attr ∈ tag.attributes, attr.loc.stop.offset ≤ tag.loc.stop.offset - 2

theorem OpeningLexeme.ReadFrom.writtenSelfClosing {text : String} {tag : OpeningLexeme}
    {slice inner : Slice} (read : tag.ReadFrom slice inner)
    (inText : slice.Ends (Slice.ofText text)) (selfClosing : tag.selfClosing = true) :
    (tag.place text).WrittenSelfClosing text := by
  obtain ⟨mark, markEnds, innerEnds, ordered, slash⟩ := read.exists_mark inText
  have front := slash selfClosing
  have stop : (tag.place text).loc.stop.offset - 2 = mark.start := by
    obtain ⟨before, chars, start⟩ := innerEnds
    have same : before ++ inner.chars = ['/', '>'] ++ inner.chars := by
      rw [← chars, front]
      rfl
    have between : before = ['/', '>'] := List.append_cancel_right same
    have stop : (tag.place text).loc.stop.offset = inner.start :=
      read.stop ▸ Position.offset_ofOffset (read.liesIn inText).stop
    rw [stop, start, between]
    rfl
  constructor
  · obtain ⟨before, after, whole, size⟩ := markEnds.within.standsAt
    rw [stop]
    exact ⟨before, inner.chars ++ after, by simp [whole, front], size⟩
  · intro attr mem
    rw [stop]
    exact ordered.stop_le attr.span (List.mem_map_of_mem mem)

/-- An unclosed element can hold nothing, or was cut off in front of what it leaves. -/
theorem ElementRead.of_unclosed {text : String} {above : List String} {slice rest : Slice}
    {tag : Tag} {children : List Node} (element : ElementRead text above slice tag children rest)
    (inText : slice.Ends (Slice.ofText text)) (unclosed : tag.closing = none) :
    (children = [] ∧ (isVoidElement tag.name = true ∨ tag.WrittenSelfClosing text)) ∨
      (rest.CutsOff tag.name ∧ ∃ raw? inner, inner.Ends slice ∧
        Laid text raw? (tag.name :: above) inner children rest) := by
  cases element with
  | alone read stands =>
      refine Or.inl ⟨rfl, ?_⟩
      rw [OpeningLexeme.standsAlone, Bool.or_eq_true] at stands
      rcases stands with selfClosing | void
      · exact Or.inr (read.writtenSelfClosing inText selfClosing)
      · exact Or.inl void
  | closed read contains content closes close => cases unclosed
  | cut read contains content cutsOff => exact Or.inr ⟨cutsOff, _, _, read.ends, content⟩

/-- An open element that trails the nodes in front of a closing tag is not of its name. -/
theorem Trails.unmatched {text : String} {nodes children : List Node} {tag : Tag}
    (trails : Trails nodes tag children) {raw? : Option String} {above : List String}
    {slice rest : Slice} (laid : Laid text raw? above slice nodes rest)
    (inText : slice.Ends (Slice.ofText text)) (lead : Lead.of rest.chars = .closing)
    (opened : children ≠ [] ∨ (isVoidElement tag.name = false ∧ ¬ tag.WrittenSelfClosing text)) :
    Text.namesMatch tag.name rest.closerName = false := by
  -- each element on the way in from the closing tag was cut off there
  induction trails generalizing raw? above slice with
  | last last unclosed =>
      obtain ⟨start, ends, element⟩ := laid.exists_elementRead last
      rcases element.of_unclosed (ends.trans inText) unclosed with ⟨rfl, alone⟩ | ⟨cutsOff, -⟩
      · obtain ⟨notVoid, notSlashed⟩ := opened.resolve_left (fun some => some rfl)
        rcases alone with void | slashed
        · exact Bool.noConfusion (void.symm.trans notVoid)
        · exact absurd slashed notSlashed
      · rcases cutsOff with finished | ⟨-, unmatched⟩
        · exact absurd finished (Slice.chars_ne_nil_of_lead lead (by decide))
        · exact unmatched
  | deeper last unclosed inside ih =>
      obtain ⟨start, ends, element⟩ := laid.exists_elementRead last
      rcases element.of_unclosed (ends.trans inText) unclosed with
        ⟨rfl, -⟩ | ⟨-, raw?, inner, innerEnds, content⟩
      · cases inside with
        | last last => cases last
        | deeper last => cases last
      · exact ih content (innerEnds.trans (ends.trans inText)) opened

/-- An element that a closing tag cut off is not of its name. -/
theorem ElementRead.unmatched_of_trails {text : String} {above : List String} {slice rest : Slice}
    {tag : Tag} {children : List Node} (element : ElementRead text above slice tag children rest)
    (inText : slice.Ends (Slice.ofText text)) {close : Token} (closed : tag.closing = some close)
    {inner : Tag} {innerChildren : List Node} (trails : Trails children inner innerChildren)
    (opened : innerChildren ≠ [] ∨
      (isVoidElement inner.name = false ∧ ¬ inner.WrittenSelfClosing text)) :
    Text.namesMatch inner.name close.chars = false := by
  cases element with
  | alone read stands => cases closed
  | closed read contains content closes readClosing =>
      obtain rfl := Option.some.inj closed
      have unmatched := trails.unmatched content (read.ends.trans inText) closes.lead opened
      rw [Slice.closerName_of_readClosing readClosing] at unmatched
      exact unmatched
  | cut read contains content cutsOff => cases closed

/-! ## Whole texts -/

/-- What pairing says of an element of the forest of a text: it is matched by
its opening name in lower case, a closing name matches it, and the elements
that its closing tag cut off are of other names. -/
structure Tag.Paired (text : String) (tag : Tag) (children : List Node) : Prop where
  name : tag.name = Text.lowercase tag.opening.chars
  matching : ∀ close, tag.closing = some close → Text.namesMatch tag.name close.chars = true
  innermost : ∀ close, tag.closing = some close → ∀ inner innerChildren,
    Trails children inner innerChildren →
    (innerChildren ≠ [] ∨ (isVoidElement inner.name = false ∧ ¬ inner.WrittenSelfClosing text)) →
    Text.namesMatch inner.name close.chars = false

/-- Every element of the forest of a text is paired, and a text outside raw text that begins like
a closing tag stands inside no element of its name. -/
theorem closing_tags_pair (text : String) :
    (∀ tag children, Node.element tag children ∈ preorder (parse text) →
      tag.Paired text children) ∧
      ∀ ancestors token, Descends (parse text) ancestors (.text token) → token.BeginsClosing →
        (∀ tag ∈ ancestors, isRawTextElement tag.name = false) →
        ∀ tag ∈ ancestors, Text.namesMatch tag.name token.closerName = false := by
  obtain ⟨last, finished, laid⟩ := parse_laid text
  constructor
  · have paired : ∀ node ∈ preorder (parse text), ∀ tag children, node = .element tag children →
        tag.Paired text children := by
      refine laid.forall_preorder (Slice.Ends.refl _) ?_ ?_ ?_
      · rintro above slice node rest - leaf tag children rfl
        cases leaf
      · rintro content - - tag children impossible
        cases impossible
      · rintro above slice _ _ rest inText element tag children ⟨rfl, rfl⟩
        obtain ⟨name, matching⟩ := element.names
        exact ⟨name, matching, fun close closed inner innerChildren trails opened =>
          element.unmatched_of_trails inText closed trails opened⟩
    exact fun tag children mem => paired _ mem tag children rfl
  · intro ancestors token descends begins ordinary
    exact descends.unmatched begins ordinary laid

/-- A closing tag inside two elements of other names is text; the outer one is
then closed and cuts off the inner one. -/
theorem closing_tags_pair_cut :
    ∃ outer middle inner children stray close,
      Node.element outer middle ∈ parse "<div><p>x</b></DIV>" ∧ outer.closing = some close ∧
      middle.getLast? = some (.element inner children) ∧ inner.closing = none ∧
      .text stray ∈ children ∧ stray.chars = "</b>" ∧
      Text.namesMatch outer.name close.chars = true ∧
      Text.namesMatch inner.name close.chars = false ∧
      ∀ tag ∈ [outer, inner], Text.namesMatch tag.name stray.closerName = false := by
  have found : ((parse "<div><p>x</b></DIV>").any fun root =>
      (root.tag?.any fun tag => tag.closing.isSome && tag.name == "div") &&
        root.children.getLast?.any fun last =>
          (last.tag?.any fun tag => tag.closing.isNone && tag.name == "p") &&
            last.children.any fun leaf => leaf.kind == "text" && leaf.label == "</b>") = true := by
    decide +kernel
  simp only [List.any_eq_true, Option.any_eq_true, Bool.and_eq_true, beq_iff_eq,
    Option.isSome_iff_exists, Option.isNone_iff_eq_none] at found
  obtain ⟨root, rootMem, ⟨outer, outer?, ⟨close, closed⟩, outerName⟩, last, last?,
    ⟨inner, inner?, unclosed, innerName⟩, leaf, leafMem, kind, label⟩ := found
  obtain ⟨stray, rfl⟩ : ∃ stray, leaf = .text stray := by
    cases leaf with
    | text token => exact ⟨token, rfl⟩
    | element | comment | doctype => simp [Node.kind] at kind
  rw [Node.eq_element_of_tag? inner?] at last?
  rw [Node.eq_element_of_tag? outer?] at rootMem
  obtain ⟨elements, strays⟩ := closing_tags_pair "<div><p>x</b></DIV>"
  have paired := elements outer _ (mem_preorder_of_mem rootMem)
  refine ⟨outer, _, inner, _, stray, close, rootMem, closed, last?, unclosed, leafMem, label,
    paired.matching close closed, ?_, ?_⟩
  · exact paired.innermost close closed inner _ (.last last? unclosed)
      (Or.inl (List.ne_nil_of_mem leafMem))
  · have descends : Descends _ [outer, inner] (.text stray) :=
      .down rootMem (.down (List.mem_of_getLast? last?) (.here leafMem))
    apply strays _ _ descends
    · exact ⟨'b', ['>'], by rw [show stray.chars = "</b>" from label]; rfl, rfl⟩
    · simp [outerName, innerName, isRawTextElement, rawTextElements]

end MarkupLint.Markup
