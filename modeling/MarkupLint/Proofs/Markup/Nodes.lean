import MarkupLint.Markup.Walk
import MarkupLint.Proofs.Markup.Layout

/-!
# The nodes of a forest that is laid out

A node of such a forest, however deep it stands, is a leaf, the content of a raw text element, or
an element that was read in one of three ways. A property of nodes holds in the whole forest if it
holds of these (`Laid.forall_preorder`).
-/

namespace MarkupLint.Markup

theorem mem_preorder_cons_iff {node first : Node} {rest : List Node} :
    node ∈ preorder (first :: rest) ↔
      node = first ∨ node ∈ preorder first.children ∨ node ∈ preorder rest := by
  cases first <;> simp [preorder, Node.preorder, Node.children]

theorem not_mem_preorder_nil {node : Node} : node ∉ preorder [] := by
  simp [preorder]

theorem mem_preorder_of_mem {node : Node} {nodes : List Node} (mem : node ∈ nodes) :
    node ∈ preorder nodes := by
  induction nodes with
  | nil => cases mem
  | cons first rest ih =>
      rcases List.mem_cons.mp mem with rfl | later
      · exact mem_preorder_cons_iff.mpr (Or.inl rfl)
      · exact mem_preorder_cons_iff.mpr (Or.inr (Or.inr (ih later)))

/-- A node with a tag is an element. -/
theorem Node.eq_element_of_tag? {node : Node} {tag : Tag} (tagged : node.tag? = some tag) :
    node = .element tag node.children := by
  cases node with
  | element found children =>
      obtain rfl := Option.some.inj tagged
      rfl
  | text | comment | doctype => cases tagged

/-- An element is read from a slice, inside elements of the names `above`: it stands alone, is
closed behind its content, or is cut off behind it. -/
inductive ElementRead (text : String) (above : List String) (slice : Slice) :
    Tag → List Node → Slice → Prop where
  | alone {tag : OpeningLexeme} {inner : Slice} (read : tag.ReadFrom slice inner)
      (stands : tag.standsAlone = true) : ElementRead text above slice (tag.place text) [] inner
  | closed {tag : OpeningLexeme} {inner tail whole name after : Slice} {children : List Node}
      (read : tag.ReadFrom slice inner) (contains : tag.standsAlone = false)
      (content : Laid text tag.rawName? (tag.elementName :: above) inner children tail)
      (closes : tail.Closes tag.elementName) (close : tail.readClosing = (whole, name, after)) :
      ElementRead text above slice
        ((tag.place text).endAt (some (name.token text))
          (Position.ofOffset text.toList whole.stop))
        children after
  | cut {tag : OpeningLexeme} {inner tail : Slice} {children : List Node}
      (read : tag.ReadFrom slice inner) (contains : tag.standsAlone = false)
      (content : Laid text tag.rawName? (tag.elementName :: above) inner children tail)
      (cutsOff : tail.CutsOff tag.elementName) :
      ElementRead text above slice
        ((tag.place text).endAt none (Position.ofOffset text.toList tail.start)) children tail

/-- An element ends where its content does, or behind a closing tag that stands there. -/
inductive Ending (text : String) (tail : Slice) : Option Token → Slice → Prop where
  | unclosed : Ending text tail none tail
  | closed {whole name after : Slice} (lead : Lead.of tail.chars = .closing)
      (close : tail.readClosing = (whole, name, after)) :
      Ending text tail (some (name.token text)) after

theorem Ending.ends {text : String} {tail rest : Slice} {closing : Option Token}
    (ending : Ending text tail closing rest) : rest.Ends tail := by
  cases ending with
  | unclosed => exact Slice.Ends.refl _
  | closed lead close => exact (Slice.splits_of_readClosing close).ends

/-- In each of the three ways, an element is its opening tag, its content and its end. -/
theorem ElementRead.exists_parts {text : String} {above : List String} {slice rest : Slice}
    {tag : Tag} {children : List Node}
    (element : ElementRead text above slice tag children rest) :
    ∃ (opening : OpeningLexeme) (raw? : Option String) (inner tail : Slice)
      (closing : Option Token),
      opening.ReadFrom slice inner ∧
      Laid text raw? (opening.elementName :: above) inner children tail ∧
      Ending text tail closing rest ∧
      tag = (opening.place text).endAt closing (Position.ofOffset text.toList rest.start) := by
  cases element with
  | @alone opening _ read stands =>
      refine ⟨opening, none, rest, rest, none, read, .nil, .unclosed, ?_⟩
      rw [← read.stop]
      rfl
  | @closed opening inner tail whole name _ _ read contains content closes close =>
      refine ⟨opening, opening.rawName?, inner, tail, some (name.token text), read, content,
        .closed closes.lead close, ?_⟩
      rw [(Slice.splits_of_readClosing close).next]
  | @cut opening inner _ _ read contains content cutsOff =>
      exact ⟨opening, opening.rawName?, inner, rest, none, read, content, .unclosed, rfl⟩

/-- A node is read from a slice. -/
inductive NodeRead (text : String) (above : List String) (slice : Slice) :
    Node → Slice → Prop where
  | leaf {node : Node} {rest : Slice} (leaf : Leaf text above slice node rest) :
      NodeRead text above slice node rest
  | element {tag : Tag} {children : List Node} {rest : Slice}
      (element : ElementRead text above slice tag children rest) :
      NodeRead text above slice (.element tag children) rest

theorem NodeRead.ends {text : String} {above : List String} {slice rest : Slice} {node : Node}
    (read : NodeRead text above slice node rest) : rest.Ends slice := by
  cases read with
  | leaf leaf =>
      obtain ⟨whole, splits, -, -⟩ := leaf.exists_whole
      exact splits.ends
  | element element =>
      obtain ⟨opening, raw?, inner, tail, closing, read, content, ending, -⟩ :=
        element.exists_parts
      exact ending.ends.trans (content.ends.trans read.ends)

/-- Nodes outside raw text are read one behind the other. -/
theorem Laid.exists_middle {text : String} {above : List String} {slice rest : Slice} {node : Node}
    {nodes : List Node} (laid : Laid text none above slice (node :: nodes) rest) :
    ∃ middle, NodeRead text above slice node middle ∧ Laid text none above middle nodes rest := by
  cases laid with
  | leaf first more => exact ⟨_, .leaf first, more⟩
  | alone lead read stands more =>
      exact ⟨_, .element (.alone (Slice.readFrom_of_readOpening lead read) stands), more⟩
  | closed lead read contains content closes close more =>
      have readFrom := Slice.readFrom_of_readOpening lead read
      exact ⟨_, .element (.closed readFrom contains content closes close), more⟩
  | cut lead read contains content cutsOff more =>
      have readFrom := Slice.readFrom_of_readOpening lead read
      exact ⟨_, .element (.cut readFrom contains content cutsOff), more⟩

/-- The nodes of raw text are one text with some characters, if there are any. -/
theorem mem_rawNodes {text : String} {content : Slice} {node : Node}
    (mem : node ∈ rawNodes text content) :
    node = .text (content.token text) ∧ content.chars ≠ [] := by
  unfold rawNodes at mem
  split at mem
  · simp at mem
  · rename_i nonempty
    exact ⟨List.mem_singleton.mp mem, fun empty => nonempty (by simp [empty])⟩

theorem preorder_rawNodes (text : String) (content : Slice) :
    preorder (rawNodes text content) = rawNodes text content := by
  unfold rawNodes
  split <;> simp [preorder, Node.preorder]

/-- What holds of leaves, of raw text and of elements, as they are read from
the text, holds of every node. -/
theorem Laid.forall_preorder {text : String} {motive : Node → Prop} {raw? : Option String}
    {above : List String} {slice rest : Slice} {nodes : List Node}
    (laid : Laid text raw? above slice nodes rest) (inText : slice.Ends (Slice.ofText text))
    (leaf : ∀ {above slice node rest}, slice.Ends (Slice.ofText text) →
      Leaf text above slice node rest → motive node)
    (rawText : ∀ {content : Slice}, content.Within (Slice.ofText text) → content.chars ≠ [] →
      motive (.text (content.token text)))
    (element : ∀ {above slice tag children rest}, slice.Ends (Slice.ofText text) →
      ElementRead text above slice tag children rest → motive (.element tag children)) :
    ∀ node ∈ preorder nodes, motive node := by
  induction laid with
  | nil => exact fun node mem => absurd mem not_mem_preorder_nil
  | @leaf _ _ _ _ first _ read more ih =>
      obtain ⟨whole, splits, -, kind⟩ := read.exists_whole
      intro node mem
      rcases mem_preorder_cons_iff.mp mem with rfl | inside | later
      · exact leaf inText read
      · rcases kind with rfl | rfl | rfl <;> exact absurd inside not_mem_preorder_nil
      · exact ih (splits.ends.trans inText) node later
  | @alone above slice inner _ tag _ lead read stands more ih =>
      have readFrom := Slice.readFrom_of_readOpening lead read
      have elementRead : ElementRead text above slice (tag.place text) [] inner :=
        .alone readFrom stands
      intro node mem
      rcases mem_preorder_cons_iff.mp mem with rfl | inside | later
      · exact element inText elementRead
      · exact absurd inside not_mem_preorder_nil
      · exact ih (readFrom.ends.trans inText) node later
  | closed lead read contains content closes close more ihContent ihMore =>
      have readFrom := Slice.readFrom_of_readOpening lead read
      have innerEnds := readFrom.ends.trans inText
      have closer := (Slice.splits_of_readClosing close).ends
      intro node mem
      rcases mem_preorder_cons_iff.mp mem with rfl | inside | later
      · exact element inText (.closed readFrom contains content closes close)
      · exact ihContent innerEnds node inside
      · exact ihMore (closer.trans (content.ends.trans innerEnds)) node later
  | cut lead read contains content cutsOff more ihContent ihMore =>
      have readFrom := Slice.readFrom_of_readOpening lead read
      have innerEnds := readFrom.ends.trans inText
      intro node mem
      rcases mem_preorder_cons_iff.mp mem with rfl | inside | later
      · exact element inText (.cut readFrom contains content cutsOff)
      · exact ihContent innerEnds node inside
      · exact ihMore (content.ends.trans innerEnds) node later
  | raw split =>
      have splits := Slice.splits_of_cut split
      intro node mem
      rw [preorder_rawNodes] at mem
      obtain ⟨rfl, nonempty⟩ := mem_rawNodes mem
      exact rawText (splits.within.trans inText.within) nonempty

end MarkupLint.Markup
