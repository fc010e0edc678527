import MarkupLint.Proofs.Markup.Rereading

/-!
# Parsing undoes rendering

A canonical forest, written in any of the ways that `Renders` allows, is read back, up to
locations. The builder goes through the text from left to right, so the statement that is proved
by induction is about any builder in front of a written forest and more text (`ReadsAs`): behind
the forest, its nodes have been pushed.
-/

namespace MarkupLint.Markup

/-! ## What was read and what was written -/

theorem Slice.unplaced_token (text : String) {slice : Slice} {token : Token}
    (chars : slice.chars = token.chars.toList) (built : token.Built) :
    (slice.token text).unplaced = token.unplaced := by
  have read : (slice.token text).unplaced = Token.anywhere (String.ofList slice.chars) := rfl
  rw [read, built.unplaced_eq, chars, String.ofList_toList]

theorem AttributeLexeme.Spells.unplaced {text : String} {lexeme : AttributeLexeme}
    {attr : Attribute} (spells : lexeme.Spells attr) (canonical : attr.Canonical) :
    (lexeme.place text).unplaced = attr.unplaced := by
  have name : (lexeme.name.token text).unplaced = attr.name.unplaced :=
    Slice.unplaced_token text spells.name canonical.name_built
  have value : (lexeme.value.map (Slice.token text)).map Token.unplaced =
      attr.value.map Token.unplaced := by
    have same := spells.value
    cases written : attr.value with
    | none =>
        rw [written, Option.map_none, Option.map_eq_none_iff] at same
        rw [same]
        rfl
    | some token =>
        rw [written, Option.map_some, Option.map_eq_some_iff] at same
        obtain ⟨slice, read, chars⟩ := same
        rw [read]
        exact congrArg some (Slice.unplaced_token text chars (canonical.value_built token written))
  rw [Attribute.unplaced, Attribute.unplaced, ← name, ← value]
  rfl

theorem OpeningLexeme.Spells.unplaced {text : String} {lexeme : OpeningLexeme} {tag : Tag}
    (spells : lexeme.Spells tag) (canonical : tag.Canonical) {closing : Option Token}
    (closed : closing.map Token.unplaced = tag.closing.map Token.unplaced) (stop : Position) :
    ((lexeme.place text).endAt closing stop).unplaced = tag.unplaced := by
  have name : (lexeme.name.token text).unplaced = tag.opening.unplaced :=
    Slice.unplaced_token text spells.name canonical.opening_built
  have attributes : (lexeme.attributes.map (AttributeLexeme.place text)).map Attribute.unplaced =
      tag.attributes.map Attribute.unplaced := by
    have each := canonical.attributes
    have pairs := spells.attributes
    generalize lexeme.attributes = lexemes at pairs
    generalize tag.attributes = attributes at pairs each
    induction pairs with
    | nil => rfl
    | cons first others ih =>
        obtain ⟨firstCanonical, othersCanonical⟩ := List.forall_mem_cons.mp each
        simp only [List.map_cons, ih othersCanonical, first.unplaced firstCanonical]
  have elementName := spells.elementName canonical
  rw [Tag.unplaced, Tag.unplaced, ← name, ← attributes, ← closed, ← elementName]
  rfl

/-! ## Reading on -/

/-- The builder behind all that is left to read of the text. -/
def Builder.read (text : String) (builder : Builder) (slice : Slice) : Builder :=
  ((scan slice).map (Lexeme.place text)).foldl Builder.take builder

namespace Builder

variable {text : String} {slice : Slice}

theorem read_next (builder : Builder) (unread : slice.chars ≠ []) :
    builder.read text slice =
      ((slice.next.1.map (Lexeme.place text)).foldl take builder).read text slice.next.2 := by
  rw [read, scan_of_chars_ne_nil unread, List.map_append, List.foldl_append, read]

theorem read_of_text (builder : Builder) (unread : slice.chars ≠ [])
    (lead : Lead.of slice.chars = .text) :
    builder.read text slice =
      (builder.push (.text (slice.readText.1.token text))).read text slice.readText.2 := by
  rw [read_next builder unread, Slice.next, lead]
  rfl

theorem read_of_comment (builder : Builder) (lead : Lead.of slice.chars = .comment) :
    builder.read text slice =
      (builder.push (.comment (slice.readComment.1.token text))).read text
        slice.readComment.2 := by
  rw [read_next builder (Slice.chars_ne_nil_of_lead lead (by decide)), Slice.next, lead]
  rfl

theorem read_of_doctype (builder : Builder) (lead : Lead.of slice.chars = .doctype) :
    builder.read text slice =
      (builder.push (.doctype ((slice.splitThrough (· == '>')).1.token text))).read text
        (slice.splitThrough (· == '>')).2 := by
  rw [read_next builder (Slice.chars_ne_nil_of_lead lead (by decide)), Slice.next, lead]
  rfl

variable {tag : OpeningLexeme} {inner : Slice}

theorem read_of_alone (builder : Builder) (lead : Lead.of slice.chars = .opening)
    (opened : slice.readOpening = (tag, inner)) (stands : tag.standsAlone = true) :
    builder.read text slice = (builder.push (.element (tag.place text) [])).read text inner := by
  have ordinary : tag.opensRawText = false := by simp [OpeningLexeme.opensRawText, stands]
  rw [read_next builder (Slice.chars_ne_nil_of_lead lead (by decide)), Slice.next, lead]
  simp [opened, ordinary, Lexeme.place, take, stands]

/-- The builder inside a new element. -/
def enter (builder : Builder) (tag : Tag) : Builder :=
  { builder with openElements := ⟨tag, []⟩ :: builder.openElements }

theorem read_of_opening (builder : Builder) (lead : Lead.of slice.chars = .opening)
    (opened : slice.readOpening = (tag, inner)) (contains : tag.standsAlone = false)
    (ordinary : isRawTextElement tag.elementName = false) :
    builder.read text slice = (builder.enter (tag.place text)).read text inner := by
  have notRaw : tag.opensRawText = false := by simp [OpeningLexeme.opensRawText, ordinary]
  rw [read_next builder (Slice.chars_ne_nil_of_lead lead (by decide)), Slice.next, lead]
  simp [opened, notRaw, Lexeme.place, take, contains, enter]

theorem read_of_rawText (builder : Builder) (lead : Lead.of slice.chars = .opening)
    (opened : slice.readOpening = (tag, inner)) (contains : tag.standsAlone = false)
    (raw : isRawTextElement tag.elementName = true) {content after : Slice}
    (split : inner.cut (endsRawText tag.elementName.toList) = (content, after)) :
    builder.read text slice =
      ((rawNodes text content).foldl push (builder.enter (tag.place text))).read text after := by
  have isRaw : tag.opensRawText = true := by simp [OpeningLexeme.opensRawText, contains, raw]
  rw [read_next builder (Slice.chars_ne_nil_of_lead lead (by decide)), Slice.next, lead]
  simp only [opened, isRaw, if_true, Slice.readRawText, split, rawNodes]
  cases content.chars.isEmpty <;> simp [Lexeme.place, take, contains, enter]

/-- What is read inside an element becomes its children. -/
theorem foldl_push_enter (builder : Builder) (tag : Tag) (nodes : List Node) :
    nodes.foldl push (builder.enter tag) =
      { builder with openElements := ⟨tag, nodes.reverse⟩ :: builder.openElements } := by
  have general : ∀ children : List Node,
      nodes.foldl push { builder with openElements := ⟨tag, children⟩ :: builder.openElements } =
        { builder with openElements :=
          ⟨tag, nodes.reverse ++ children⟩ :: builder.openElements } := by
    induction nodes with
    | nil => exact fun children => rfl
    | cons node nodes ih =>
        intro children
        simp only [List.foldl_cons, push, ih, List.reverse_cons, List.append_assoc,
          List.cons_append, List.nil_append]
  rw [enter, general, List.append_nil]

/-- A closing tag for the innermost element ends it. -/
theorem read_of_closing (builder : Builder) {tag : Tag} {nodes : List Node}
    {whole name after : Slice} (lead : Lead.of slice.chars = .closing)
    (closed : slice.readClosing = (whole, name, after))
    (matching : Text.namesMatch tag.name (String.ofList name.chars) = true) :
    (nodes.foldl push (builder.enter tag)).read text slice =
      (builder.push (.element
        (tag.endAt (some (name.token text)) (whole.token text).loc.stop) nodes)).read
        text after := by
  rw [foldl_push_enter, read_next _ (Slice.chars_ne_nil_of_lead lead (by decide)), Slice.next,
    lead]
  simp only [closed, List.map_cons, List.map_nil, List.foldl_cons, List.foldl_nil, Lexeme.place,
    take]
  have innermost : depthOf? { builder with openElements :=
    ⟨tag, nodes.reverse⟩ :: builder.openElements }
      (name.token text).chars = some 0 := by
    simp only [depthOf?, Slice.token, Token.new, List.findIdx?_cons, matching, if_true]
  rw [innermost]
  simp [cutOff, closeInner, OpenElement.close, Tag.endAt]

end Builder

/-- In front of the slice, whatever has been built, the nodes are read, up to
locations, and `rest` is left. -/
def ReadsAs (text : String) (slice : Slice) (nodes : List Node) (rest : Slice) : Prop :=
  ∃ placed, unplaced placed = unplaced nodes ∧
    ∀ builder : Builder,
      builder.read text slice = (placed.foldl Builder.push builder).read text rest

theorem ReadsAs.nil {text : String} {slice : Slice} : ReadsAs text slice [] slice :=
  ⟨[], rfl, fun _ => rfl⟩

/-- The node, up to locations, is read and `rest` is left. -/
def ReadsNode (text : String) (slice : Slice) (node : Node) (rest : Slice) : Prop :=
  ∃ placed : Node, placed.unplaced = node.unplaced ∧
    ∀ builder : Builder, builder.read text slice = (builder.push placed).read text rest

theorem ReadsNode.cons {text : String} {slice middle rest : Slice} {node : Node}
    {nodes : List Node} (first : ReadsNode text slice node middle)
    (more : ReadsAs text middle nodes rest) : ReadsAs text slice (node :: nodes) rest := by
  obtain ⟨placed, same, read⟩ := first
  obtain ⟨others, sameOthers, readOthers⟩ := more
  refine ⟨placed :: others, by rw [unplaced, unplaced, same, sameOthers], fun builder => ?_⟩
  rw [read, readOthers, List.foldl_cons]

/-- If the first node is read and then the others are, all are. -/
theorem ReadsAs.exists_cons {text : String} {slice : Slice} {node : Node} {nodes : List Node}
    {chars tail : List Char}
    (first : ∃ middle : Slice, middle.chars = chars ∧ ReadsNode text slice node middle)
    (more : ∀ {middle : Slice}, middle.chars = chars →
      ∃ rest : Slice, rest.chars = tail ∧ ReadsAs text middle nodes rest) :
    ∃ rest : Slice, rest.chars = tail ∧ ReadsAs text slice (node :: nodes) rest := by
  obtain ⟨middle, left, read⟩ := first
  obtain ⟨rest, restChars, reads⟩ := more left
  exact ⟨rest, restChars, read.cons reads⟩

/-! ## Leaves -/

section Leaves

variable (text : String) {slice : Slice} {token : Token} {tail : List Char}

theorem readsNode_text (front : slice.chars = token.chars.toList ++ tail) (built : token.Built)
    (nonempty : token.chars.toList ≠ []) (plain : '<' ∉ token.chars.toList)
    (stops : tail = [] ∨ endsText tail = true) :
    ∃ rest : Slice, rest.chars = tail ∧ ReadsNode text slice (.text token) rest := by
  obtain ⟨whole, left⟩ := Slice.readText_chars front nonempty plain stops
  obtain ⟨c, others, written⟩ := List.exists_cons_of_ne_nil nonempty
  have unread : slice.chars ≠ [] := by simp [front, written]
  have lead : Lead.of slice.chars = .text := by
    rw [front, written, List.cons_append]
    exact Lead.of_text (fun bracket => plain (by simp [written, bracket]))
  refine ⟨_, left, .text (slice.readText.1.token text), ?_, fun builder =>
    builder.read_of_text unread lead⟩
  rw [Node.unplaced, Node.unplaced, Slice.unplaced_token text whole built]

theorem readsNode_comment {body : List Char} (front : slice.chars = token.chars.toList ++ tail)
    (built : token.Built) (written : token.chars.toList = "<!--".toList ++ body ++ "-->".toList)
    (unended : ¬ "-->".toList <:+: body) :
    ∃ rest : Slice, rest.chars = tail ∧ ReadsNode text slice (.comment token) rest := by
  rw [written] at front
  obtain ⟨whole, left⟩ := Slice.readComment_chars front unended
  have lead : Lead.of slice.chars = .comment := by
    rw [front]
    rfl
  rw [← written] at whole
  refine ⟨_, left, .comment (slice.readComment.1.token text), ?_, fun builder =>
    builder.read_of_comment lead⟩
  rw [Node.unplaced, Node.unplaced, Slice.unplaced_token text whole built]

theorem readsNode_doctype {body : List Char} (front : slice.chars = token.chars.toList ++ tail)
    (built : token.Built) (written : token.chars.toList = "<!".toList ++ body ++ ">".toList)
    (unended : '>' ∉ body) (uncommented : ¬ "--".toList <+: body) :
    ∃ rest : Slice, rest.chars = tail ∧ ReadsNode text slice (.doctype token) rest := by
  have split : slice.chars = ('<' :: '!' :: body) ++ '>' :: tail := by simp [front, written]
  obtain ⟨whole, left⟩ := Slice.splitThrough_chars split (by simp [unended])
  have lead : Lead.of slice.chars = .doctype := by
    rw [split]
    exact Lead.of_doctype uncommented
  have same : (slice.splitThrough (· == '>')).1.chars = token.chars.toList := by
    rw [whole, written]
    rfl
  refine ⟨_, left, .doctype ((slice.splitThrough (· == '>')).1.token text), ?_, fun builder =>
    builder.read_of_doctype lead⟩
  rw [Node.unplaced, Node.unplaced, Slice.unplaced_token text same built]

end Leaves

/-! ## Elements -/

section Elements

variable (text : String) {slice : Slice} {tag : Tag} {body tail : List Char}

theorem readsNode_unclosed {selfClosing : Bool}
    (front : slice.chars = '<' :: (tag.opening.chars.toList ++ body ++ tail))
    (canonical : tag.Canonical) (unclosed : tag.closing = none)
    (head : BodyWritten tag.attributes selfClosing body)
    (alone : selfClosing = true ∨ isVoidElement tag.name = true) :
    ∃ rest : Slice, rest.chars = tail ∧ ReadsNode text slice (.element tag []) rest := by
  obtain ⟨lead, lexeme, inner, opened, spells, ended, left⟩ :=
    Slice.readOpening_chars head canonical front
  have stands : lexeme.standsAlone = true := by
    rw [OpeningLexeme.standsAlone, ended, spells.elementName canonical, Bool.or_eq_true]
    exact alone
  refine ⟨inner, left, .element (lexeme.place text) [], ?_, fun builder =>
    builder.read_of_alone lead opened stands⟩
  have same : (lexeme.place text).unplaced = tag.unplaced :=
    spells.unplaced canonical (by rw [unclosed]) (lexeme.place text).loc.stop
  rw [Node.unplaced, Node.unplaced, same]

variable {close : Token} {children : List Node} {content blanks : List Char}

/-- The tag of an element that is closed later is read back and opens it. -/
theorem Tag.ClosedBy.readOpening (closedBy : tag.ClosedBy close) (canonical : tag.Canonical)
    (head : BodyWritten tag.attributes false body)
    (front : slice.chars = '<' :: (tag.opening.chars.toList ++ body ++ tail)) :
    Lead.of slice.chars = .opening ∧
      ∃ lexeme inner, slice.readOpening = (lexeme, inner) ∧ lexeme.Spells tag ∧
        lexeme.standsAlone = false ∧ inner.chars = tail := by
  obtain ⟨lead, lexeme, inner, opened, spells, ended, left⟩ :=
    Slice.readOpening_chars head canonical front
  refine ⟨lead, lexeme, inner, opened, spells, ?_, left⟩
  rw [OpeningLexeme.standsAlone, ended, spells.elementName canonical, closedBy.contains]
  rfl

/-- An element is read whole if its content is read up to its closing tag. -/
theorem readsNode_of_closer (closedBy : tag.ClosedBy close) (canonical : tag.Canonical)
    {lexeme : OpeningLexeme} (spells : lexeme.Spells tag) {closer : Slice} (blank : Blanks blanks)
    (front : closer.chars = '<' :: '/' :: (close.chars.toList ++ blanks ++ '>' :: tail))
    {placed : List Node} (same : unplaced placed = unplaced children)
    (reads : ∀ builder : Builder, builder.read text slice =
      (placed.foldl Builder.push (builder.enter (lexeme.place text))).read text closer) :
    ∃ rest : Slice, rest.chars = tail ∧ ReadsNode text slice (.element tag children) rest := by
  obtain ⟨letter, rest, written, alpha, -⟩ := closedBy.closing_name
  have lead : Lead.of closer.chars = .closing := by
    rw [front, written]
    exact Lead.of_closing alpha
  obtain ⟨name, left⟩ := Slice.readClosing_chars front closedBy.closing_name.isTagNameChar blank
  have matching : Text.namesMatch (lexeme.place text).name
      (String.ofList closer.readClosing.2.1.chars) = true := by
    change Text.namesMatch lexeme.elementName _ = true
    rw [spells.elementName canonical, name, String.ofList_toList]
    exact closedBy.matching
  have closed : (some (closer.readClosing.2.1.token text)).map Token.unplaced =
      tag.closing.map Token.unplaced := by
    rw [closedBy.written]
    exact congrArg some (Slice.unplaced_token text name closedBy.built)
  refine ⟨closer.readClosing.2.2, left,
    .element ((lexeme.place text).endAt (some (closer.readClosing.2.1.token text))
      (closer.readClosing.1.token text).loc.stop) placed,
    ?_, fun builder => ?_⟩
  · rw [Node.unplaced, Node.unplaced, spells.unplaced canonical closed, same]
  · exact (reads builder).trans (builder.read_of_closing lead rfl matching)

theorem readsNode_closed
    (front : slice.chars = '<' :: (tag.opening.chars.toList ++ body ++ (content ++
      '<' :: '/' :: (close.chars.toList ++ blanks ++ '>' :: tail))))
    (canonical : tag.Canonical) (closedBy : tag.ClosedBy close)
    (head : BodyWritten tag.attributes false body) (blank : Blanks blanks)
    (ordinary : isRawTextElement tag.name = false)
    (inside : ∀ inner : Slice,
      inner.chars = content ++ '<' :: '/' :: (close.chars.toList ++ blanks ++ '>' :: tail) →
      ∃ rest : Slice, rest.chars = '<' :: '/' :: (close.chars.toList ++ blanks ++ '>' :: tail) ∧
        ReadsAs text inner children rest) :
    ∃ rest : Slice, rest.chars = tail ∧ ReadsNode text slice (.element tag children) rest := by
  obtain ⟨lead, lexeme, inner, opened, spells, contains, left⟩ :=
    closedBy.readOpening canonical head front
  rw [← spells.elementName canonical] at ordinary
  obtain ⟨closer, closerChars, placed, same, reads⟩ := inside inner left
  refine readsNode_of_closer text closedBy canonical spells blank closerChars same
    fun builder => ?_
  rw [builder.read_of_opening lead opened contains ordinary, reads]

theorem readsNode_raw
    (front : slice.chars = '<' :: (tag.opening.chars.toList ++ body ++
      (content ++ '<' :: '/' :: (close.chars.toList ++ blanks ++ '>' :: tail))))
    (canonical : tag.Canonical) (closedBy : tag.ClosedBy close)
    (head : BodyWritten tag.attributes false body) (blank : Blanks blanks)
    (raw : isRawTextElement tag.name = true) (unended : NowhereCloses tag.name.toList content)
    (same : ∀ inner : Slice, inner.chars = content →
      unplaced (rawNodes text inner) = unplaced children) :
    ∃ rest : Slice, rest.chars = tail ∧ ReadsNode text slice (.element tag children) rest := by
  obtain ⟨lead, lexeme, inner, opened, spells, contains, left⟩ :=
    closedBy.readOpening canonical head front
  have closes : closesName tag.name.toList (close.chars.toList ++ blanks ++ '>' :: tail) =
      true := by
    rw [closesName_eq_true_iff, List.append_assoc]
    exact ⟨_, _, rfl, map_toLower_of_namesMatch raw closedBy.matching,
      blank.stops isTagNameChar_of_isBlank rfl tail⟩
  obtain ⟨inside, closerChars⟩ := Slice.cutRawText_chars raw left unended closes
  rw [← spells.elementName canonical] at raw inside closerChars
  exact readsNode_of_closer text closedBy canonical spells blank closerChars (same _ inside)
    fun builder => builder.read_of_rawText lead opened contains raw rfl

end Elements

theorem Canonical.tag {tag : Tag} {children nodes : List Node}
    (canonical : Canonical (.element tag children :: nodes)) :
    tag.Canonical ∧ Canonical nodes := by
  cases canonical with
  | unclosed canonical unclosed more => exact ⟨canonical, more⟩
  | closed canonical closedBy ordinary content more => exact ⟨canonical, more⟩
  | emptyRaw canonical closedBy raw more => exact ⟨canonical, more⟩
  | raw canonical closedBy raw built nonempty unended more => exact ⟨canonical, more⟩

/-- Behind a text, the next node or the closing tag of the element around it begins with markup. -/
theorem Renders.endsText {nodes : List Node} {chars tail : List Char}
    (renders : Renders nodes chars) (canonical : Canonical nodes)
    (apart : ∀ next ∈ nodes.head?, ¬ next.IsText) (stops : tail = [] ∨ endsText tail = true) :
    chars ++ tail = [] ∨ endsText (chars ++ tail) = true := by
  have bracket : ∀ {tag : Tag} {rest : List Char}, tag.Canonical →
      Markup.endsText ('<' :: (tag.opening.chars.toList ++ rest)) = true := by
    intro tag rest canonical
    obtain ⟨letter, name, written, alpha, -⟩ := canonical.opening_name
    simp [written, Markup.endsText, alpha]
  cases renders with
  | nil => exact stops
  | text more => exact absurd trivial (apart _ rfl)
  | comment more =>
      cases canonical with
      | comment built written unended more => exact Or.inr (by simp [written, Markup.endsText])
  | doctype more =>
      cases canonical with
      | doctype built written unended uncommented more =>
          exact Or.inr (by simp [written, Markup.endsText])
  | unclosed unclosed head alone more =>
      simpa [List.append_assoc] using bracket canonical.tag.1
  | closed written head inside blank more =>
      simpa [List.append_assoc] using bracket canonical.tag.1

theorem nowhereCloses_nil {name : List Char} : NowhereCloses name [] := by
  intro before written c after whole
  simp at whole

theorem unplaced_rawNodes {text : String} {inner : Slice} {content : Token}
    (same : inner.chars = content.chars.toList) (nonempty : content.chars.toList ≠ [])
    (built : content.Built) : unplaced (rawNodes text inner) = unplaced [.text content] := by
  have some : ¬ inner.chars.isEmpty = true := by
    rw [same, List.isEmpty_iff]
    exact nonempty
  rw [rawNodes, if_neg some]
  simp only [unplaced, Node.unplaced, Slice.unplaced_token text same built]

/-- In front of a canonical forest that is written and more text, its nodes are read. -/
theorem Renders.readsAs (text : String) {nodes : List Node} {chars : List Char}
    (renders : Renders nodes chars) (canonical : Canonical nodes) {slice : Slice}
    {tail : List Char} (front : slice.chars = chars ++ tail)
    (stops : tail = [] ∨ Markup.endsText tail = true) :
    ∃ rest : Slice, rest.chars = tail ∧ ReadsAs text slice nodes rest := by
  induction renders generalizing slice tail with
  | nil => exact ⟨slice, front, .nil⟩
  | @text token nodes chars renders ih =>
      cases canonical with
      | text built nonempty plain apart more =>
          rw [List.append_assoc] at front
          have markup := renders.endsText more apart stops
          exact ReadsAs.exists_cons (readsNode_text text front built nonempty plain markup)
            fun left => ih more left stops
  | @comment token nodes chars renders ih =>
      cases canonical with
      | comment built written unended more =>
          rw [List.append_assoc] at front
          exact ReadsAs.exists_cons (readsNode_comment text front built written unended)
            fun left => ih more left stops
  | @doctype token nodes chars renders ih =>
      cases canonical with
      | doctype built written unended uncommented more =>
          rw [List.append_assoc] at front
          exact ReadsAs.exists_cons
            (readsNode_doctype text front built written unended uncommented)
            fun left => ih more left stops
  | @unclosed tag selfClosing nodes body chars unclosed head alone renders ih =>
      obtain ⟨tagCanonical, more⟩ := canonical.tag
      have split : slice.chars = '<' :: (tag.opening.chars.toList ++ body ++ (chars ++ tail)) := by
        simp [front]
      exact ReadsAs.exists_cons (readsNode_unclosed text split tagCanonical unclosed head alone)
        fun left => ih more left stops
  | @closed tag close children nodes body content blanks chars written head inside blank _
      ihInside ih =>
      have split : slice.chars = '<' :: (tag.opening.chars.toList ++ body ++ (content ++
          '<' :: '/' :: (close.chars.toList ++ blanks ++ '>' :: (chars ++ tail)))) := by
        simp [front]
      have element : ∃ middle : Slice, middle.chars = chars ++ tail ∧
          ReadsNode text slice (.element tag children) middle := by
        cases canonical with
        | unclosed canonical unclosed more => cases written.symm.trans unclosed
        | closed canonical closedBy ordinary inner more =>
            obtain rfl := Option.some.inj (written.symm.trans closedBy.written)
            exact readsNode_closed text split canonical closedBy head blank ordinary
              fun middle left => ihInside inner left (Or.inr rfl)
        | emptyRaw canonical closedBy raw more =>
            obtain rfl := Option.some.inj (written.symm.trans closedBy.written)
            cases inside
            exact readsNode_raw text split canonical closedBy head blank raw nowhereCloses_nil
              fun inner empty => by rw [rawNodes, empty]; rfl
        | raw canonical closedBy raw built nonempty unended more =>
            obtain rfl := Option.some.inj (written.symm.trans closedBy.written)
            obtain ⟨-⟩ | ⟨⟨⟩⟩ := inside
            rw [List.append_nil] at split
            exact readsNode_raw text split canonical closedBy head blank raw unended
              fun inner same => unplaced_rawNodes same nonempty built
      exact ReadsAs.exists_cons element fun left => ih canonical.tag.2 left stops

/-! ## Whole texts -/

/-- Nodes that are pushed outside every element are the roots. -/
theorem Builder.finish_foldl_push (nodes : List Node) (stop : Position) :
    (nodes.foldl Builder.push Builder.empty).finish stop = nodes := by
  have roots : ∀ before : List Node,
      nodes.foldl Builder.push ⟨before, []⟩ = ⟨nodes.reverse ++ before, []⟩ := by
    induction nodes with
    | nil => exact fun before => rfl
    | cons node nodes ih =>
        intro before
        simp only [List.foldl_cons, Builder.push, ih, List.reverse_cons, List.append_assoc,
          List.cons_append, List.nil_append]
  rw [Builder.empty, roots, Builder.finish]
  simp [Builder.cutOff]

/-- A canonical forest that is written as a text, in whatever way, is what the
text is read as, up to locations. -/
theorem parse_of_renders {forest : List Node} {text : String} (canonical : Canonical forest)
    (renders : Renders forest text.toList) : unplaced (parse text) = unplaced forest := by
  have front : (Slice.ofText text).chars = text.toList ++ [] := (List.append_nil _).symm
  obtain ⟨rest, finished, placed, same, reads⟩ := renders.readsAs text canonical front (Or.inl rfl)
  have behind : (placed.foldl Builder.push Builder.empty).read text rest =
      placed.foldl Builder.push Builder.empty := by
    rw [Builder.read, scan_of_chars_eq_nil finished]
    rfl
  have built : parse text =
      (Builder.empty.read text (Slice.ofText text)).finish
        (Position.ofOffset text.toList (Slice.ofText text).stop) :=
    parse_eq_forestOf_place text
  rw [built, reads, behind, Builder.finish_foldl_push, same]

/-- An attribute in quotes, an element without content inside another, a
closing name in the other case. -/
theorem parse_of_renders_nested :
    unplaced (parse "<p a = 'x'>é<br></P >") =
      unplaced [.element ⟨"p", [Attribute.new (.anywhere "a") (some (.anywhere "x"))],
          .anywhere "p", some (.anywhere "P"), .origin⟩
        [.text (.anywhere "é"), .element (.new "br" (.anywhere "br")) []]] := by
  have space : Blanks [' '] := by decide
  have none : Blanks [] := by decide
  have attr : AttributeWritten (.new (.anywhere "a") (some (.anywhere "x"))) false _ :=
    .valued rfl space space (.single (by decide))
  have head := BodyWritten.attr space (by decide) attr (.ended none) (by decide)
  have inside : Renders [.text (.anywhere "é"), .element (.new "br" (.anywhere "br")) []] _ :=
    .text (.unclosed rfl (.ended none) (Or.inr (by decide +kernel)) .nil)
  have br : Tag.Canonical (.new "br" (.anywhere "br")) :=
    ⟨rfl, ⟨'b', ['r'], by decide +kernel, rfl, List.forall_mem_singleton.mpr rfl⟩,
      by decide +kernel, by simp [Tag.new]⟩
  apply parse_of_renders
  · refine .closed ⟨rfl, ⟨'p', [], by decide, rfl, by simp⟩, by decide +kernel, ?_⟩
      ⟨rfl, rfl, ⟨'P', [], by decide, rfl, by simp⟩, by decide +kernel, by decide +kernel⟩
      (by decide +kernel)
      (.text rfl (by decide +kernel) (by simp [Token.anywhere, Token.new]) (by simp [Node.IsText])
        (.unclosed br rfl .nil)) .nil
    refine List.forall_mem_singleton.mpr ⟨rfl, by decide +kernel,
      List.forall_mem_singleton.mpr rfl, ?_⟩
    rintro _ ⟨rfl⟩
    rfl
  · refine (congrArg (Renders _) ?_).mp (.closed rfl head inside space .nil)
    decide +kernel

end MarkupLint.Markup
