import MarkupLint.Proofs.Markup.Codec
import MarkupLint.Proofs.Markup.Located

/-!
# Reading back what was written of a tree

A node is written with its children inside it, at any depth, and reading gives the whole tree
back, however the fields of each record are arranged. What a reader accepts as a node has words
for all its numbers, so it can be written and read once more.
-/

namespace MarkupLint.Markup

variable {arrange : Json → Json}

/-! ## Lists of records -/

/-- If each item is read as its value, the list is read as the list of values. -/
theorem mapM_eq_some_map {α β : Type} {read : α → Option β} {value : α → β} {items : List α}
    (each : ∀ item ∈ items, read item = some (value item)) :
    items.mapM read = some (items.map value) := by
  induction items with
  | nil => rfl
  | cons item items ih =>
      have rest := ih fun other mem => each other (List.mem_cons_of_mem item mem)
      simp [each item List.mem_cons_self, rest]

/-- If each item is read back, so is the list. -/
theorem mapM_eq_some_self {α : Type} {reread : α → Option α} {items : List α}
    (each : ∀ item ∈ items, reread item = some item) : items.mapM reread = some items := by
  rw [mapM_eq_some_map each, List.map_id']

/-- What is read from a list is read item by item. -/
theorem exists_of_mem_mapM {α β : Type} {read : β → Option α} {items : List β} {results : List α}
    (all : items.mapM read = some results) {result : α} (mem : result ∈ results) :
    ∃ item ∈ items, read item = some result := by
  induction items generalizing results with
  | nil =>
      cases all
      cases mem
  | cons item items ih =>
      simp only [List.mapM_cons, bind, pure, Option.bind_eq_some_iff, Option.some.injEq] at all
      obtain ⟨first, firstRead, others, othersRead, rfl⟩ := all
      rcases List.mem_cons.mp mem with rfl | later
      · exact ⟨item, List.mem_cons_self, firstRead⟩
      · obtain ⟨other, otherMem, read⟩ := ih othersRead later
        exact ⟨other, List.mem_cons_of_mem item otherMem, read⟩

theorem forestToJson_eq_map (nodes : List Node) : forestToJson nodes = nodes.map Node.toJson := by
  induction nodes with
  | nil => rfl
  | cons node nodes ih => rw [forestToJson, ih, List.map_cons]

/-! ## Tags -/

namespace Tag

/-- The numbers of the tag, of its tokens and of its attributes are words. -/
def Fits (tag : Tag) : Prop :=
  ∀ loc ∈ tag.locations, loc.Fits

theorem fits_iff {tag : Tag} : tag.Fits ↔
    tag.loc.Fits ∧ tag.opening.loc.Fits ∧ (∀ token, tag.closing = some token → token.loc.Fits) ∧
      ∀ attr ∈ tag.attributes, attr.Fits := by
  constructor
  · intro fits
    have ofToken : ∀ token ∈ tag.tokens, token.loc.Fits := by
      intro token mem
      exact fits _ (List.mem_cons_of_mem _ (List.mem_append_left _ (List.mem_map_of_mem mem)))
    have ofAttribute : ∀ attr ∈ tag.attributes, ∀ token ∈ attr.tokens, token.loc.Fits := by
      intro attr attrMem token mem
      exact ofToken token (List.mem_append_right _ (List.mem_flatMap.mpr ⟨attr, attrMem, mem⟩))
    refine ⟨fits _ List.mem_cons_self, ofToken _ List.mem_cons_self, ?_, ?_⟩
    · intro token closed
      apply ofToken
      simp [tokens, closed]
    · intro attr mem
      refine ⟨ofAttribute attr mem _ List.mem_cons_self, ?_, ?_⟩
      · intro token written
        apply ofAttribute attr mem
        simp [Attribute.tokens, written]
      · exact fits _ (List.mem_cons_of_mem _ (List.mem_append_right _ (List.mem_map_of_mem mem)))
  · rintro ⟨own, opening, closing, attributes⟩ loc mem
    simp only [locations, tokens, Attribute.tokens, List.cons_append, List.map_cons,
      List.map_append, List.mem_cons, List.mem_append, List.mem_map, List.mem_flatMap,
      Option.mem_toList] at mem
    rcases mem with rfl | rfl | (⟨token, closed, rfl⟩ | ⟨token, ⟨attr, attrMem, named⟩, rfl⟩) |
      ⟨attr, attrMem, rfl⟩
    · exact own
    · exact opening
    · exact closing token closed
    · rcases named with rfl | written
      · exact (attributes attr attrMem).name
      · exact (attributes attr attrMem).value token written
    · exact (attributes attr attrMem).loc

theorem fits_of_ofFields? {fields : Json.Fields} {tag : Tag} (read : ofFields? fields = some tag) :
    tag.Fits := by
  simp only [ofFields?, bind, pure, Option.bind_eq_some_iff, Option.some.injEq] at read
  obtain ⟨nameJson, -, name, -, itemsJson, -, items, -, attributes, attributesRead, openJson, -,
    opening, openingRead, closing, closingRead, locJson, -, loc, locRead, rfl⟩ := read
  rw [fits_iff]
  refine ⟨Location.fits_of_ofJson? locRead, Token.fits_of_ofJson? openingRead,
    Token.fits_of_optional? closingRead, ?_⟩
  intro attr mem
  obtain ⟨item, -, attrRead⟩ := exists_of_mem_mapM attributesRead mem
  exact Attribute.fits_of_ofJson? attrRead

end Tag

/-! ## Nodes -/

theorem mem_preorder_iff {inner : Node} {nodes : List Node} :
    inner ∈ preorder nodes ↔ ∃ node ∈ nodes, inner ∈ node.preorder := by
  induction nodes with
  | nil => simp [preorder]
  | cons node nodes ih => simp [preorder, ih]

namespace Node

/-- The numbers of the node and of all nodes inside it are words. -/
def Fits (node : Node) : Prop :=
  ∀ inner ∈ node.preorder, ∀ loc ∈ inner.locations, loc.Fits

instance (node : Node) : Decidable node.Fits :=
  inferInstanceAs (Decidable (∀ inner ∈ node.preorder, ∀ loc ∈ inner.locations, loc.Fits))

theorem fits_element_iff {tag : Tag} {children : List Node} :
    (element tag children).Fits ↔ tag.Fits ∧ ∀ child ∈ children, child.Fits := by
  simp only [Fits, Node.preorder, List.forall_mem_cons]
  refine and_congr Iff.rfl ?_
  constructor
  · intro fits child childMem inner mem
    exact fits inner (mem_preorder_iff.mpr ⟨child, childMem, mem⟩)
  · intro fits inner mem
    obtain ⟨child, childMem, innerMem⟩ := mem_preorder_iff.mp mem
    exact fits child childMem inner innerMem

theorem fits_text_iff {token : Token} : (text token).Fits ↔ token.loc.Fits := by
  simp [Fits, Node.preorder, locations]

theorem fits_comment_iff {token : Token} : (comment token).Fits ↔ token.loc.Fits := by
  simp [Fits, Node.preorder, locations]

theorem fits_doctype_iff {token : Token} : (doctype token).Fits ↔ token.loc.Fits := by
  simp [Fits, Node.preorder, locations]

/-- What a node is read from, one rule for each kind. -/
inductive ReadFrom (fields : Json.Fields) : Node → Prop where
  | element {items : List Json} {tag : Tag} {children : List Node}
      (kind : fields.get? "type" = some (.string "tag"))
      (inside : fields.get? "children" = some (.array items))
      (tagRead : Tag.ofFields? fields = some tag)
      (childrenRead : items.mapM ofJson? = some children) : ReadFrom fields (.element tag children)
  | text {token : Token} (kind : fields.get? "type" = some (.string "text"))
      (read : Token.ofFields? fields = some token) : ReadFrom fields (.text token)
  | comment {token : Token} (kind : fields.get? "type" = some (.string "comment"))
      (read : Token.ofFields? fields = some token) : ReadFrom fields (.comment token)
  | doctype {token : Token} (kind : fields.get? "type" = some (.string "doctype"))
      (read : Token.ofFields? fields = some token) : ReadFrom fields (.doctype token)

theorem mapM_attach {α β : Type} (read : α → Option β) (items : List α) :
    items.attach.mapM (fun item => read item.1) = items.mapM read := by
  rw [List.mapM_subtype (fun _ _ => rfl), List.unattach_attach]

theorem ReadFrom.ofJson? {fields : Json.Fields} {node : Node} (read : ReadFrom fields node) :
    Node.ofJson? (.object fields) = some node := by
  rw [Node.ofJson?]
  cases read with
  | @element items tag children kind inside tagRead childrenRead =>
      simp only [kind, Json.toText?, bind, Option.bind_some]
      split
      · rename_i found foundEq
        obtain rfl : found = items := by simpa using foundEq.symm.trans inside
        rw [mapM_attach]
        simp [tagRead, childrenRead]
      · rename_i other
        exact absurd inside (other items)
  | text kind read => simp [kind, Json.toText?, read]
  | comment kind read => simp [kind, Json.toText?, read]
  | doctype kind read => simp [kind, Json.toText?, read]

theorem eq_string_of_toText? {json : Json} {word : String} (read : json.toText? = some word) :
    json = .string word := by
  cases json with
  | string value =>
      cases read
      rfl
  | null | bool | number | array | object => contradiction

theorem exists_readFrom {json : Json} {node : Node} (read : ofJson? json = some node) :
    ∃ fields, json = .object fields ∧ ReadFrom fields node := by
  rw [ofJson?.eq_def] at read
  split at read
  · rename_i fields
    refine ⟨fields, rfl, ?_⟩
    simp only [bind, Option.bind_eq_some_iff] at read
    obtain ⟨kindJson, kind, word, kindRead, read⟩ := read
    rw [eq_string_of_toText? kindRead] at kind
    split at read
    · split at read
      · rename_i items inside
        rw [mapM_attach] at read
        simp only [pure, Option.bind_eq_some_iff, Option.some.injEq] at read
        obtain ⟨tag, tagRead, children, childrenRead, rfl⟩ := read
        exact .element kind inside tagRead childrenRead
      · contradiction
    · obtain ⟨token, tokenRead, rfl⟩ := Option.map_eq_some_iff.mp read
      exact .text kind tokenRead
    · obtain ⟨token, tokenRead, rfl⟩ := Option.map_eq_some_iff.mp read
      exact .comment kind tokenRead
    · obtain ⟨token, tokenRead, rfl⟩ := Option.map_eq_some_iff.mp read
      exact .doctype kind tokenRead
    · contradiction
  · contradiction

/-- What is read as a node has words for all its numbers. -/
theorem fits_of_ofJson? {json : Json} {node : Node} (read : ofJson? json = some node) :
    node.Fits := by
  obtain ⟨fields, record, readFrom⟩ := exists_readFrom read
  cases readFrom with
  | element kind inside tagRead childrenRead =>
      rw [fits_element_iff]
      refine ⟨Tag.fits_of_ofFields? tagRead, ?_⟩
      intro child mem
      obtain ⟨item, itemMem, itemRead⟩ := exists_of_mem_mapM childrenRead mem
      exact fits_of_ofJson? itemRead
  | text kind tokenRead => exact fits_text_iff.mpr (Token.fits_of_ofFields? tokenRead)
  | comment kind tokenRead => exact fits_comment_iff.mpr (Token.fits_of_ofFields? tokenRead)
  | doctype kind tokenRead => exact fits_doctype_iff.mpr (Token.fits_of_ofFields? tokenRead)
termination_by sizeOf json
decreasing_by
  rw [record]
  exact Json.sizeOf_item_lt inside itemMem

end Node

/-- The record of a node, arranged, still gives the value of each field. -/
theorem Node.exists_moved (arranges : Json.Arranges arrange) (node : Node) :
    ∃ moved : Json.Fields, arrange node.toJson = .object moved ∧
      ∀ name, moved.get? name = (node.toJson.get? name).map arrange := by
  have leaf : ∀ (kind : Json) (token : Token),
      (NameMap.names (("type", kind) :: token.toFields)).Nodup := by
    rintro kind ⟨chars, loc, _ | _⟩ <;> simp [Token.toFields, NameMap.names]
  cases node with
  | element tag children =>
      rw [Node.toJson]
      apply arranges.object
      simp [NameMap.names]
  | text token => exact arranges.object _ (leaf (.string "text") token)
  | comment token => exact arranges.object _ (leaf (.string "comment") token)
  | doctype token => exact arranges.object _ (leaf (.string "doctype") token)

/-- The tag of an element is read back from the fields of its record. -/
theorem Tag.ofFields?_arranged (arranges : Json.Arranges arrange) {tag : Tag}
    {children : List Node} (fits : tag.Fits) {fields : Json.Fields}
    (found : ∀ name,
      fields.get? name = ((Node.element tag children).toJson.get? name).map arrange) :
    Tag.ofFields? fields = some tag := by
  obtain ⟨own, opening, closing, attributes⟩ := fits_iff.mp fits
  have attributesRead : tag.attributes.mapM (Attribute.ofJson? ∘ arrange ∘ Attribute.toJson) =
      some tag.attributes :=
    mapM_eq_some_self fun attr mem => Attribute.ofJson?_arranged arranges (attributes attr mem)
  simp [ofFields?, found, Node.toJson, Json.get?, NameMap.get?_cons, arranges.string,
    arranges.array, Json.toText?, Json.toItems?, attributesRead,
    Token.ofJson?_arranged arranges opening, Token.optional?_arranged arranges closing,
    Location.ofJson?_arranged arranges own]

/-- The token of a leaf is read back from the fields of its record. -/
theorem Token.ofFields?_leaf (arranges : Json.Arranges arrange) {token : Token}
    (fits : token.loc.Fits) {kind : Json} {fields : Json.Fields}
    (found : ∀ name, fields.get? name =
      ((Json.object (("type", kind) :: token.toFields)).get? name).map arrange) :
    Token.ofFields? fields = some token := by
  refine Token.ofFields?_arranged arranges fits (found "chars") (found "loc") ?_
  rw [found, Json.get?, NameMap.get?_cons, if_neg (by decide)]

/-- A node is read back from its record, however the fields in it are arranged. -/
theorem Node.ofJson?_arranged (arranges : Json.Arranges arrange) (node : Node) (fits : node.Fits) :
    Node.ofJson? (arrange node.toJson) = some node := by
  obtain ⟨moved, written, found⟩ := node.exists_moved arranges
  have kind : moved.get? "type" = some (.string node.kind) := by
    rw [found]
    cases node <;> exact congrArg some (arranges.string _)
  rw [written]
  apply ReadFrom.ofJson?
  cases node with
  | element tag children =>
      obtain ⟨tagFits, childrenFit⟩ := fits_element_iff.mp fits
      have childrenRead : children.mapM (Node.ofJson? ∘ arrange ∘ Node.toJson) = some children :=
        mapM_eq_some_self fun child mem =>
          Node.ofJson?_arranged arranges child (childrenFit child mem)
      have inside :
          moved.get? "children" = some (.array ((children.map Node.toJson).map arrange)) := by
        simp [found, Node.toJson, Json.get?, NameMap.get?_cons, arranges.array,
          forestToJson_eq_map]
      refine .element kind inside (Tag.ofFields?_arranged arranges tagFits found) ?_
      rw [List.mapM_map, List.mapM_map]
      exact childrenRead
  | text token => exact .text kind (Token.ofFields?_leaf arranges (fits_text_iff.mp fits) found)
  | comment token =>
      exact .comment kind (Token.ofFields?_leaf arranges (fits_comment_iff.mp fits) found)
  | doctype token =>
      exact .doctype kind (Token.ofFields?_leaf arranges (fits_doctype_iff.mp fits) found)
termination_by sizeOf node

end MarkupLint.Markup
