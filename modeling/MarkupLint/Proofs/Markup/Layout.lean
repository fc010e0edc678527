import MarkupLint.Proofs.Markup.Placement
import MarkupLint.Proofs.Text.Lowercase

/-!
# How a forest is laid out over its text

`Laid` says by rules what a text is read as, without a stack: which nodes stand behind each other,
from which slice left to read each was read, and where each element ends. The elements around a
node are known by name, since they decide whether a closing tag closes something. The builder,
which goes through the lexemes with a stack of open elements, builds exactly a forest that is laid
out (`parse_laid`): its stack is a layout that is not finished yet.
-/

namespace MarkupLint.Markup

/-! ## Raw text -/

/-- The names of raw text elements are lower-case letters other than k. -/
theorem letters_of_isRawTextElement {name : String} (raw : isRawTextElement name = true) :
    (∀ c ∈ name.toList, c.isAlpha = true) ∧ 'k' ∉ name.toList ∧
      name.toList.map Char.toLower = name.toList ∧ name.toList ≠ [] := by
  have mem : name ∈ rawTextElements := List.contains_iff_mem.mp raw
  simp only [rawTextElements, List.mem_cons, List.not_mem_nil, or_false] at mem
  rcases mem with rfl | rfl <;> simp

/-- A written name matches the name of a raw text element if it has its letters, in any case. -/
theorem namesMatch_of_map_toLower {name : String} (raw : isRawTextElement name = true)
    {written : List Char} (letters : written.map Char.toLower = name.toList) :
    Text.namesMatch name (String.ofList written) = true := by
  obtain ⟨alpha, -, lower, -⟩ := letters_of_isRawTextElement raw
  have nameAscii : ∀ c ∈ name.toList, c.toNat < 0x80 :=
    fun c mem => Text.toNat_lt_of_isAlpha (alpha c mem)
  have writtenAscii : ∀ c ∈ written, c.toNat < 0x80 := by
    intro c mem
    have lowered : c.toLower ∈ name.toList := letters ▸ List.mem_map_of_mem mem
    exact Text.toNat_lt_of_isAlpha (Char.isAlpha_toLower_eq_isAlpha c ▸ alpha _ lowered)
  have same : Text.lowercase name = Text.lowercase (String.ofList written) := by
    rw [Text.lowercase, Text.lowercase, Text.lowerChars, Text.lowerChars, String.toList_ofList,
      Text.lowerAfter_of_ascii nameAscii, Text.lowerAfter_of_ascii writtenAscii, letters, lower]
  simp [Text.namesMatch, same]

/-- Where a name of letters is closed, the name that is written there has these letters. -/
theorem map_toLower_takeWhile_of_closesName {name chars : List Char}
    (alpha : ∀ c ∈ name, c.isAlpha = true) (closes : closesName name chars = true) :
    (chars.takeWhile isTagNameChar).map Char.toLower = name := by
  induction name generalizing chars with
  | nil =>
      cases chars with
      | nil => rfl
      | cons c rest =>
          have stops : isTagNameChar c = false := by simpa [closesName] using closes
          simp [stops]
  | cons n name ih =>
      cases chars with
      | nil => simp [closesName] at closes
      | cons c rest =>
          simp only [closesName, Bool.and_eq_true, beq_iff_eq] at closes
          obtain ⟨rfl, closes⟩ := closes
          have letter : c.isAlpha = true :=
            Char.isAlpha_toLower_eq_isAlpha c ▸ alpha _ List.mem_cons_self
          rw [List.takeWhile_cons_of_pos (isTagNameChar_of_isAlpha letter), List.map_cons,
            ih (fun d mem => alpha d (List.mem_cons_of_mem _ mem)) closes]

/-- The name in the closing tag at the front of a slice. -/
def Slice.closerName (slice : Slice) : String :=
  String.ofList slice.readClosing.2.1.chars

theorem Slice.closerName_eq {slice : Slice} {rest : List Char}
    (front : slice.chars = '<' :: '/' :: rest) :
    slice.closerName = String.ofList (rest.takeWhile isTagNameChar) := by
  rw [closerName, readClosing_name_eq front]

/-- Raw text is ended by a closing tag that closes its element. -/
theorem Slice.closes_of_endsRawText {slice : Slice} {name : String}
    (raw : isRawTextElement name = true) (ends : endsRawText name.toList slice.chars = true) :
    Lead.of slice.chars = .closing ∧ Text.namesMatch name slice.closerName = true := by
  obtain ⟨alpha, -, -, nonempty⟩ := letters_of_isRawTextElement raw
  cases front : slice.chars with
  | nil => simp [front, endsRawText] at ends
  | cons first chars =>
      rw [front, endsRawText.eq_def] at ends
      split at ends
      · rename_i rest same
        obtain ⟨rfl, rfl⟩ := List.cons.inj same
        have letters := map_toLower_takeWhile_of_closesName alpha ends
        constructor
        · cases rest with
          | nil => exact absurd letters.symm nonempty
          | cons c rest =>
              obtain ⟨n, name', split⟩ := List.exists_cons_of_ne_nil nonempty
              rw [split, closesName, Bool.and_eq_true, beq_iff_eq] at ends
              have letter := alpha n (split ▸ List.mem_cons_self)
              rw [ends.1, Char.isAlpha_toLower_eq_isAlpha] at letter
              exact Lead.of_closing letter
        · rw [closerName_eq front]
          exact namesMatch_of_map_toLower raw letters
      · cases ends

/-! ## The rules -/

/-- The name of the raw text element that a tag opens, if it opens one. -/
def OpeningLexeme.rawName? (tag : OpeningLexeme) : Option String :=
  if tag.opensRawText then some tag.elementName else none

/-- The nodes of raw text: one text, unless it is empty. -/
def rawNodes (text : String) (content : Slice) : List Node :=
  if content.chars.isEmpty then [] else [.text (content.token text)]

/-- The tag, ended at a position. -/
def Tag.endAt (tag : Tag) (closing : Option Token) (stop : Position) : Tag :=
  { tag with closing := closing, loc := ⟨tag.loc.start, stop⟩ }

/-- At the front of the slice stands a closing tag for the name. -/
structure Slice.Closes (slice : Slice) (name : String) : Prop where
  lead : Lead.of slice.chars = .closing
  matching : Text.namesMatch name slice.closerName = true

/-- An element of the name cannot go on: the text is over, or a closing tag of
another name stands at the front of the slice. -/
def Slice.CutsOff (slice : Slice) (name : String) : Prop :=
  slice.chars = [] ∨
    (Lead.of slice.chars = .closing ∧ Text.namesMatch name slice.closerName = false)

/-- A leaf is read from a slice, inside elements of the names `above`. A closing tag is a leaf if
none of these names matches its own. -/
inductive Leaf (text : String) (above : List String) (slice : Slice) : Node → Slice → Prop where
  | text {whole rest : Slice} (unread : slice.chars ≠ []) (lead : Lead.of slice.chars = .text)
      (read : slice.readText = (whole, rest)) :
      Leaf text above slice (.text (whole.token text)) rest
  | comment {whole rest : Slice} (lead : Lead.of slice.chars = .comment)
      (read : slice.readComment = (whole, rest)) :
      Leaf text above slice (.comment (whole.token text)) rest
  | doctype {whole rest : Slice} (lead : Lead.of slice.chars = .doctype)
      (read : slice.splitThrough (· == '>') = (whole, rest)) :
      Leaf text above slice (.doctype (whole.token text)) rest
  | stray {whole name rest : Slice} (lead : Lead.of slice.chars = .closing)
      (read : slice.readClosing = (whole, name, rest))
      (unmatched : ∀ outer ∈ above, Text.namesMatch outer slice.closerName = false) :
      Leaf text above slice (.text (whole.token text)) rest

/-- `Laid text raw? above slice nodes rest`: inside elements of the names `above`, innermost
first, the nodes are read from `slice`, which leaves `rest`. If `raw?` is a name, they are the
content of the raw text element of that name. -/
inductive Laid (text : String) :
    Option String → List String → Slice → List Node → Slice → Prop where
  | nil {above : List String} {slice : Slice} : Laid text none above slice [] slice
  | leaf {above : List String} {slice middle rest : Slice} {node : Node} {nodes : List Node}
      (first : Leaf text above slice node middle) (more : Laid text none above middle nodes rest) :
      Laid text none above slice (node :: nodes) rest
  | alone {above : List String} {slice inner rest : Slice} {tag : OpeningLexeme}
      {nodes : List Node}
      (lead : Lead.of slice.chars = .opening) (read : slice.readOpening = (tag, inner))
      (stands : tag.standsAlone = true) (more : Laid text none above inner nodes rest) :
      Laid text none above slice (.element (tag.place text) [] :: nodes) rest
  | closed {above : List String} {slice inner tail whole name after rest : Slice}
      {tag : OpeningLexeme} {children nodes : List Node}
      (lead : Lead.of slice.chars = .opening) (read : slice.readOpening = (tag, inner))
      (contains : tag.standsAlone = false)
      (content : Laid text tag.rawName? (tag.elementName :: above) inner children tail)
      (closes : tail.Closes tag.elementName) (close : tail.readClosing = (whole, name, after))
      (more : Laid text none above after nodes rest) :
      Laid text none above slice
        (.element ((tag.place text).endAt (some (name.token text))
          (Position.ofOffset text.toList whole.stop)) children :: nodes) rest
  | cut {above : List String} {slice inner tail rest : Slice} {tag : OpeningLexeme}
      {children nodes : List Node}
      (lead : Lead.of slice.chars = .opening) (read : slice.readOpening = (tag, inner))
      (contains : tag.standsAlone = false)
      (content : Laid text tag.rawName? (tag.elementName :: above) inner children tail)
      (cutsOff : tail.CutsOff tag.elementName) (more : Laid text none above tail nodes rest) :
      Laid text none above slice
        (.element ((tag.place text).endAt none
            (Position.ofOffset text.toList tail.start)) children ::
          nodes) rest
  | raw {name : String} {above : List String} {slice content rest : Slice}
      (split : slice.cut (endsRawText name.toList) = (content, rest)) :
      Laid text (some name) above slice (rawNodes text content) rest

theorem Slice.chars_ne_nil_of_lead {slice : Slice} {lead : Lead}
    (begins : Lead.of slice.chars = lead) (markup : lead ≠ .text) : slice.chars ≠ [] := by
  intro empty
  rw [empty] at begins
  exact markup begins.symm

theorem Slice.Splits.chars_ne_nil {slice first second : Slice} (splits : slice.Splits first second)
    (shorter : second.length < slice.length) : first.chars ≠ [] := by
  intro empty
  simp [Slice.length, splits.chars, empty] at shorter

/-- The node is a leaf, the token of a part of the text. -/
def Node.LeafOf (text : String) (whole : Slice) (node : Node) : Prop :=
  node = .text (whole.token text) ∨ node = .comment (whole.token text) ∨
    node = .doctype (whole.token text)

/-- A leaf is the token of the characters in front of what it leaves, and has some. -/
theorem Leaf.exists_whole {text : String} {above : List String} {slice rest : Slice} {node : Node}
    (leaf : Leaf text above slice node rest) :
    ∃ whole : Slice, slice.Splits whole rest ∧ whole.chars ≠ [] ∧ node.LeafOf text whole := by
  cases leaf with
  | @text whole _ unread lead read =>
      have splits := slice.readText_splits
      have shorter := Slice.length_readText_lt unread
      rw [read] at splits shorter
      exact ⟨whole, splits, splits.chars_ne_nil shorter, Or.inl rfl⟩
  | @comment whole _ lead read =>
      have splits := slice.readComment_splits
      have shorter := Slice.length_readComment_lt (Slice.chars_ne_nil_of_lead lead (by decide))
      rw [read] at splits shorter
      exact ⟨whole, splits, splits.chars_ne_nil shorter, Or.inr (Or.inl rfl)⟩
  | @doctype whole _ lead read =>
      have splits := slice.splitThrough_splits (· == '>')
      have unread : slice.chars ≠ [] := Slice.chars_ne_nil_of_lead lead (by decide)
      have shorter := Slice.length_splitThrough_le (· == '>') slice
      have positive := Slice.length_pos_of_chars_ne_nil unread
      rw [read] at splits shorter
      exact ⟨whole, splits, splits.chars_ne_nil (by omega), Or.inr (Or.inr rfl)⟩
  | @stray whole _ _ lead read unmatched =>
      have splits := Slice.splits_of_readClosing read
      have shorter := Slice.length_readClosing_lt (Slice.chars_ne_nil_of_lead lead (by decide))
      rw [read] at shorter
      exact ⟨whole, splits, splits.chars_ne_nil shorter, Or.inl rfl⟩

/-- What nodes leave of a slice ends it. -/
theorem Laid.ends {text : String} {raw? : Option String} {above : List String} {slice rest : Slice}
    {nodes : List Node} (laid : Laid text raw? above slice nodes rest) : rest.Ends slice := by
  induction laid with
  | nil => exact Slice.Ends.refl _
  | leaf first more ih =>
      obtain ⟨whole, splits, -, -⟩ := first.exists_whole
      exact ih.trans splits.ends
  | alone lead read stands more ih =>
      have tag := Slice.readFrom_of_readOpening lead read
      exact ih.trans tag.ends
  | closed lead read contains content closes close more ihContent ihMore =>
      have tag := Slice.readFrom_of_readOpening lead read
      have closer := Slice.splits_of_readClosing close
      exact ihMore.trans (closer.ends.trans (ihContent.trans tag.ends))
  | cut lead read contains content cutsOff more ihContent ihMore =>
      have tag := Slice.readFrom_of_readOpening lead read
      exact ihMore.trans (ihContent.trans tag.ends)
  | raw split => exact (Slice.splits_of_cut split).ends

theorem Laid.append {text : String} {raw? : Option String} {above : List String}
    {slice middle rest : Slice} {nodes others : List Node}
    (first : Laid text raw? above slice nodes middle) (ordinary : raw? = none)
    (second : Laid text none above middle others rest) :
    Laid text none above slice (nodes ++ others) rest := by
  induction first with
  | nil => exact second
  | leaf leaf _ ih => exact .leaf leaf (ih rfl second)
  | alone lead read stands _ ih => exact .alone lead read stands (ih rfl second)
  | closed lead read contains content closes close _ _ ih =>
      exact .closed lead read contains content closes close (ih rfl second)
  | cut lead read contains content cutsOff _ _ ih =>
      exact .cut lead read contains content cutsOff (ih rfl second)
  | raw split => cases ordinary

/-- Raw text ends with the text or in front of a closing tag for its element. -/
theorem Laid.closes_of_raw {text : String} {name : String} {above : List String}
    {slice rest : Slice} {nodes : List Node} (laid : Laid text (some name) above slice nodes rest)
    (raw : isRawTextElement name = true) : rest.chars = [] ∨ rest.Closes name := by
  cases laid with
  | raw split =>
      cases left : rest.chars with
      | nil => exact Or.inl rfl
      | cons c chars =>
          have stops : endsRawText name.toList rest.chars = true := by
            have snd : (cutBefore (endsRawText name.toList) slice.chars).2 = c :: chars := by
              rw [← left]
              exact congrArg (fun parts : Slice × Slice => parts.2.chars) split
            rw [left]
            exact cutBefore_snd_eq_cons snd
          obtain ⟨lead, matching⟩ := Slice.closes_of_endsRawText raw stops
          exact Or.inr ⟨lead, matching⟩

/-! ## The stack of open elements -/

/-- The names of the open elements, innermost first. -/
def Builder.names (builder : Builder) : List String :=
  builder.openElements.map fun element => element.tag.name

/-- The open elements and the finished nodes are laid out over the text in front of the slice. -/
inductive Building (text : String) (roots : List Node) : List OpenElement → Slice → Prop where
  | outside {slice : Slice} (laid : Laid text none [] (Slice.ofText text) roots.reverse slice) :
      Building text roots [] slice
  | inside {element : OpenElement} {outer : List OpenElement} {start inner slice : Slice}
      {tag : OpeningLexeme}
      (lead : Lead.of start.chars = .opening) (read : start.readOpening = (tag, inner))
      (contains : tag.standsAlone = false) (placed : element.tag = tag.place text)
      (content : Laid text tag.rawName? (tag.elementName :: outer.map fun element =>
        element.tag.name)
        inner element.children.reverse slice)
      (around : Building text roots outer start) : Building text roots (element :: outer) slice

/-- The builder stands in front of the slice. -/
def Builder.Builds (text : String) (builder : Builder) (slice : Slice) : Prop :=
  Building text builder.roots builder.openElements slice

namespace Builder

@[simp]
theorem names_push (builder : Builder) (node : Node) :
    (builder.push node).names = builder.names := by
  obtain ⟨roots, openElements⟩ := builder
  cases openElements <;> rfl

@[simp]
theorem names_closeInner (builder : Builder) (closing : Option Token) (stop : Position) :
    (builder.closeInner closing stop).names = builder.names.tail := by
  obtain ⟨roots, openElements⟩ := builder
  cases openElements with
  | nil => rfl
  | cons inner outer => exact names_push ⟨roots, outer⟩ _

theorem names_cutOff (builder : Builder) (stop : Position) (count : Nat) :
    (builder.cutOff stop count).names = builder.names.drop count := by
  induction count generalizing builder with
  | zero => rfl
  | succ count ih => rw [cutOff, ih, names_closeInner, List.drop_tail]

/-- The depth of a name is found among the names of the open elements. -/
theorem depthOf?_eq (builder : Builder) (name : String) :
    builder.depthOf? name = builder.names.findIdx? fun outer => Text.namesMatch outer name := by
  rw [depthOf?, names, List.findIdx?_map]
  rfl

end Builder

theorem OpeningLexeme.isRawTextElement_of_rawName? {tag : OpeningLexeme} {name : String}
    (raw : tag.rawName? = some name) : tag.elementName = name ∧ isRawTextElement name = true := by
  unfold rawName? at raw
  split at raw
  · rename_i opens
    simp only [opensRawText, Bool.and_eq_true] at opens
    obtain rfl := Option.some.inj raw
    exact ⟨rfl, opens.2⟩
  · cases raw

theorem Slice.not_closes {slice : Slice} {lead : Lead} (begins : Lead.of slice.chars = lead)
    (other : lead ≠ .closing) (name : String) : ¬ slice.Closes name :=
  fun closes => other (begins.symm.trans closes.lead)

namespace Builder.Builds

variable {text : String} {builder : Builder} {slice rest : Slice}

/-- A node that is read at the slice is added where the builder stands, unless
the slice closes an open element. -/
theorem push (builds : builder.Builds text slice) (unread : slice.chars ≠ [])
    (free : ∀ name ∈ builder.names, ¬ slice.Closes name) {node : Node}
    (laid : Laid text none builder.names slice [node] rest) :
    (builder.push node).Builds text rest := by
  obtain ⟨roots, openElements⟩ := builder
  cases builds with
  | outside before =>
      have after := before.append rfl laid
      rw [← List.reverse_cons] at after
      exact .outside after
  | @inside element outer start inner _ tag lead read contains placed content around =>
      have name : element.tag.name = tag.elementName := by rw [placed]; rfl
      have ordinary : tag.rawName? = none := by
        -- raw text is over only where its element is closed
        cases raw : tag.rawName? with
        | none => rfl
        | some rawName =>
            obtain ⟨rfl, isRaw⟩ := OpeningLexeme.isRawTextElement_of_rawName? raw
            rw [raw] at content
            rcases content.closes_of_raw isRaw with finished | closes
            · exact absurd finished unread
            · exact absurd closes (free _ (name ▸ List.mem_cons_self))
      simp only [names, List.map_cons, name] at laid
      have after := content.append ordinary laid
      rw [← List.reverse_cons, ← ordinary] at after
      exact .inside lead read contains placed after around

/-- Where a text begins with markup other than a closing tag, no open element is in the way. -/
theorem pushMarkup (builds : builder.Builds text slice) {lead : Lead}
    (begins : Lead.of slice.chars = lead) (markup : lead ≠ .text) (other : lead ≠ .closing)
    {node : Node} (laid : Laid text none builder.names slice [node] rest) :
    (builder.push node).Builds text rest :=
  builds.push (Slice.chars_ne_nil_of_lead begins markup)
    (fun name _ => Slice.not_closes begins other name) laid

/-- The innermost open element is closed by a closing tag of its name. -/
theorem close (builds : builder.Builds text slice) {name : String} {outer : List String}
    (innermost : builder.names = name :: outer) (closes : slice.Closes name)
    {whole written after : Slice} (close : slice.readClosing = (whole, written, after)) :
    (builder.closeInner (some (written.token text))
      (Position.ofOffset text.toList whole.stop)).Builds text after := by
  obtain ⟨roots, openElements⟩ := builder
  cases builds with
  | outside before => cases innermost
  | @inside element outer' start inner _ tag lead read contains placed content around =>
      have sameName : name = tag.elementName := by
        rw [← (List.cons.inj innermost).1]
        exact congrArg Tag.name placed
      have opened : Builds text ⟨roots, outer'⟩ start := around
      have laid := Laid.closed lead read contains content (sameName ▸ closes) close .nil
      have result := opened.pushMarkup lead (by decide) (by decide) laid
      rw [← placed] at result
      exact result

/-- The innermost open element, if there is one, ends where it cannot go on. -/
theorem cutInner (builds : builder.Builds text slice)
    (cuts : ∀ name ∈ builder.names.head?, slice.CutsOff name) :
    (builder.closeInner none (Position.ofOffset text.toList slice.start)).Builds text slice := by
  obtain ⟨roots, openElements⟩ := builder
  cases builds with
  | outside before => exact .outside before
  | @inside element outer start inner _ tag lead read contains placed content around =>
      have cutsOff : slice.CutsOff tag.elementName := cuts _ (by simp [names, placed]; rfl)
      have opened : Builds text ⟨roots, outer⟩ start := around
      have laid := Laid.cut lead read contains content cutsOff .nil
      have result := opened.pushMarkup lead (by decide) (by decide) laid
      rw [← placed] at result
      exact result

theorem cutOff (builds : builder.Builds text slice) {count : Nat}
    (cuts : ∀ name ∈ builder.names.take count, slice.CutsOff name) :
    (builder.cutOff (Position.ofOffset text.toList slice.start) count).Builds text slice := by
  induction count generalizing builder with
  | zero => exact builds
  | succ count ih =>
      rw [Builder.cutOff]
      apply ih
      · apply builds.cutInner
        intro name head
        apply cuts
        cases opened : builder.names with
        | nil => simp [opened] at head
        | cons first others => simp_all
      · intro name mem
        apply cuts
        rw [names_closeInner] at mem
        cases opened : builder.names with
        | nil => simp [opened] at mem
        | cons first others =>
            rw [opened] at mem
            exact List.mem_cons_of_mem first mem

/-! ## Taking the lexemes of a text -/

/-- A closing tag closes the innermost open element of its name and cuts off
those inside it, or is a leaf. -/
theorem takeClosing (builds : builder.Builds text slice) (lead : Lead.of slice.chars = .closing)
    {whole name after : Slice} (read : slice.readClosing = (whole, name, after)) :
    (builder.take (.closing (whole.token text) (name.token text))).Builds text after := by
  have unread : slice.chars ≠ [] := Slice.chars_ne_nil_of_lead lead (by decide)
  have splits := Slice.splits_of_readClosing read
  have written : (name.token text).chars = slice.closerName := by rw [Slice.closerName, read]; rfl
  simp only [Builder.take, written]
  rw [depthOf?_eq]
  split
  · rename_i depth found
    obtain ⟨inside, matching, passed⟩ := List.findIdx?_eq_some_iff_getElem.mp found
    have start : (whole.token text).loc.start = Position.ofOffset text.toList slice.start := by
      rw [← splits.start]
      rfl
    have cuts : ∀ name ∈ builder.names.take depth, slice.CutsOff name := by
      intro name mem
      obtain ⟨index, lt, rfl⟩ := List.mem_take_iff_getElem.mp mem
      have early : index < depth := Nat.lt_of_lt_of_le lt (Nat.min_le_left _ _)
      exact Or.inr ⟨lead, by simpa using passed index early⟩
    have innermost := names_cutOff builder (Position.ofOffset text.toList slice.start) depth
    rw [List.drop_eq_getElem_cons inside] at innermost
    rw [start]
    exact (builds.cutOff cuts).close innermost ⟨lead, matching⟩ read
  · rename_i missing
    have unmatched := List.findIdx?_eq_none_iff.mp missing
    refine builds.push unread (fun name mem closes => ?_) (.leaf (.stray lead read unmatched) .nil)
    exact Bool.noConfusion (closes.matching.symm.trans (unmatched name mem))

/-- An opening tag that stands alone is an element without content. -/
theorem takeAlone (builds : builder.Builds text slice) (lead : Lead.of slice.chars = .opening)
    {tag : OpeningLexeme} {inner : Slice} (read : slice.readOpening = (tag, inner))
    (stands : tag.standsAlone = true) :
    (builder.take (.opening (tag.place text) tag.standsAlone)).Builds text inner := by
  rw [take, if_pos stands]
  exact builds.pushMarkup lead (by decide) (by decide) (.alone lead read stands .nil)

/-- Any other opening tag opens an element, and what it leaves is read inside. -/
theorem takeOpening (builds : builder.Builds text slice) (lead : Lead.of slice.chars = .opening)
    {tag : OpeningLexeme} {inner : Slice} (read : slice.readOpening = (tag, inner))
    (contains : tag.standsAlone = false) (ordinary : tag.opensRawText = false) :
    (builder.take (.opening (tag.place text) tag.standsAlone)).Builds text inner := by
  have content : Laid text tag.rawName? (tag.elementName :: builder.names) inner [] inner := by
    rw [OpeningLexeme.rawName?, ordinary]
    exact .nil
  simp only [take, contains, Bool.false_eq_true, if_false]
  exact .inside lead read contains rfl content builds

/-- The opening tag of a raw text element is taken together with the text behind it. -/
theorem takeRawText (builds : builder.Builds text slice) (lead : Lead.of slice.chars = .opening)
    {tag : OpeningLexeme} {inner after : Slice} {content : List Lexeme}
    (read : slice.readOpening = (tag, inner)) (raw : tag.opensRawText = true)
    (readRaw : inner.readRawText tag.elementName = (content, after)) :
    ((content.map (Lexeme.place text)).foldl take
      (builder.take (.opening (tag.place text) tag.standsAlone))).Builds text after := by
  have contains : tag.standsAlone = false := by
    simp only [OpeningLexeme.opensRawText, Bool.and_eq_true, Bool.not_eq_true'] at raw
    exact raw.1
  have isRaw : tag.rawName? = some tag.elementName := by rw [OpeningLexeme.rawName?, if_pos raw]
  cases split : inner.cut (endsRawText tag.elementName.toList) with
  | mk inside rest =>
      have laid : Laid text (some tag.elementName) (tag.elementName :: builder.names) inner
          (rawNodes text inside) rest := .raw split
      simp only [Slice.readRawText, split, Prod.mk.injEq] at readRaw
      obtain ⟨rfl, rfl⟩ := readRaw
      rw [← isRaw] at laid
      simp only [take, contains, Bool.false_eq_true, if_false]
      cases empty : inside.chars.isEmpty with
      | true =>
          rw [rawNodes, if_pos empty] at laid
          exact .inside lead read contains rfl laid builds
      | false =>
          rw [rawNodes, empty] at laid
          exact .inside lead read contains rfl laid builds

/-- The lexemes at the front of a slice take the builder behind them. -/
theorem takeNext (builds : builder.Builds text slice) (unread : slice.chars ≠ []) :
    ((slice.next.1.map (Lexeme.place text)).foldl take builder).Builds text slice.next.2 := by
  unfold Slice.next
  split
  · rename_i lead
    exact builds.pushMarkup lead (by decide) (by decide) (.leaf (.comment lead rfl) .nil)
  · rename_i lead
    exact builds.pushMarkup lead (by decide) (by decide) (.leaf (.doctype lead rfl) .nil)
  · rename_i lead
    exact builds.takeClosing lead rfl
  · rename_i lead
    have read : slice.readOpening = (slice.readOpening.1, slice.readOpening.2) := rfl
    simp only
    split
    · rename_i raw
      exact builds.takeRawText lead read raw rfl
    · rename_i ordinary
      cases stands : slice.readOpening.1.standsAlone with
      | true => exact builds.takeAlone lead read stands
      | false => exact builds.takeOpening lead read stands (Bool.eq_false_iff.mpr ordinary)
  · rename_i lead
    exact builds.push unread (fun name _ => Slice.not_closes lead (by decide) name)
      (.leaf (.text unread lead rfl) .nil)

/-- All lexemes of a text take the builder to its end. -/
theorem takeAll (slice : Slice) {builder : Builder} (builds : builder.Builds text slice) :
    ∃ last, last.chars = [] ∧
      (((scan slice).map (Lexeme.place text)).foldl take builder).Builds text last := by
  induction slice using scan_induction generalizing builder with
  | done slice finished =>
      rw [scan_of_chars_eq_nil finished]
      exact ⟨slice, finished, builds⟩
  | step slice unread ih =>
      rw [scan_of_chars_ne_nil unread, List.map_append, List.foldl_append]
      exact ih (builds.takeNext unread)

end Builder.Builds

theorem Building.ends {text : String} {roots : List Node} {openElements : List OpenElement}
    {slice : Slice} (building : Building text roots openElements slice) :
    slice.Ends (Slice.ofText text) := by
  induction building with
  | outside laid => exact laid.ends
  | inside lead read contains placed content around ih =>
      have tag := Slice.readFrom_of_readOpening lead read
      exact content.ends.trans (tag.ends.trans ih)

/-- At the end of the text, the finished forest is laid out over all of it. -/
theorem Builder.Builds.finish {text : String} {builder : Builder} {last : Slice}
    (builds : builder.Builds text last) (finished : last.chars = []) :
    Laid text none [] (Slice.ofText text)
      (builder.finish (Position.ofOffset text.toList (Slice.ofText text).stop)) last := by
  have stop : last.start = (Slice.ofText text).stop := by
    rw [← Building.ends builds |>.stop_eq, Slice.stop, finished]
    rfl
  have cut := builds.cutOff (fun name _ => Or.inl finished :
    ∀ name ∈ builder.names.take builder.openElements.length, last.CutsOff name)
  have noNames := names_cutOff builder (Position.ofOffset text.toList last.start)
    builder.openElements.length
  rw [List.drop_eq_nil_of_le (by simp [names]), names, List.map_eq_nil_iff] at noNames
  rw [Builds, noNames, stop] at cut
  cases cut with
  | outside laid => exact laid

/-- Every text is laid out by the forest it is read as. -/
theorem parse_laid (text : String) :
    ∃ last, last.chars = [] ∧ Laid text none [] (Slice.ofText text) (parse text) last := by
  have start : Builder.empty.Builds text (Slice.ofText text) := .outside .nil
  obtain ⟨last, finished, builds⟩ := Builder.Builds.takeAll (Slice.ofText text) start
  rw [parse_eq_forestOf_place]
  exact ⟨last, finished, builds.finish finished⟩

end MarkupLint.Markup
