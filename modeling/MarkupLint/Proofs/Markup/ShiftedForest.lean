import Mathlib.Data.List.Induction
import MarkupLint.Proofs.Markup.Placement
import MarkupLint.Proofs.Markup.ShiftedReading
import MarkupLint.Proofs.Markup.Walk

/-!
# The forest of a text behind line breaks

Line breaks in front of a text move all that is read of it down: each is one line and one byte,
and columns stay as they are. Only the text at the very front changes, since the line breaks join
it; behind it the forest is the same, moved down (`parse_behindBreaks`).
-/

namespace MarkupLint.Markup

/-- The text behind some line breaks. -/
def behindBreaks (count : Nat) (text : String) : String :=
  String.ofList (List.replicate count '\n' ++ text.toList)

@[simp]
theorem toList_behindBreaks (count : Nat) (text : String) :
    (behindBreaks count text).toList = List.replicate count '\n' ++ text.toList :=
  String.toList_ofList

@[simp]
theorem behindBreaks_zero (text : String) : behindBreaks 0 text = text :=
  String.ofList_toList

theorem byteSize_breaks (count : Nat) : byteSize (List.replicate count '\n') = count := by
  induction count with
  | zero => rfl
  | succ count ih =>
      rw [List.replicate_succ, byteSize_cons, ih, Nat.add_comm]
      rfl

/-! ## Moving down -/

/-- The position, some lines and as many bytes further on. -/
def Position.shift (count : Nat) (position : Position) : Position :=
  ⟨position.line + count, position.column, position.offset + count⟩

/-- The location, further down. -/
def Location.shift (count : Nat) (loc : Location) : Location :=
  ⟨loc.start.shift count, loc.stop.shift count⟩

/-- The token, further down. -/
def Token.shift (count : Nat) (token : Token) : Token :=
  { token with loc := token.loc.shift count }

@[simp]
theorem Token.chars_shift (count : Nat) (token : Token) :
    (token.shift count).chars = token.chars :=
  rfl

@[simp]
theorem Token.loc_shift (count : Nat) (token : Token) :
    (token.shift count).loc = token.loc.shift count :=
  rfl

@[simp]
theorem Token.isPlaceholder_shift (count : Nat) (token : Token) :
    (token.shift count).isPlaceholder = token.isPlaceholder :=
  rfl

/-- The attribute, further down. -/
def Attribute.shift (count : Nat) (attr : Attribute) : Attribute :=
  ⟨attr.name.shift count, attr.value.map (Token.shift count), attr.loc.shift count⟩

/-- The tag, further down. -/
def Tag.shift (count : Nat) (tag : Tag) : Tag where
  name := tag.name
  attributes := tag.attributes.map (Attribute.shift count)
  opening := tag.opening.shift count
  closing := tag.closing.map (Token.shift count)
  loc := tag.loc.shift count

mutual

/-- The node with all that is inside it, further down. -/
def Node.shift (count : Nat) : Node → Node
  | .element tag children => .element (tag.shift count) (shiftAll count children)
  | .text token => .text (token.shift count)
  | .comment token => .comment (token.shift count)
  | .doctype token => .doctype (token.shift count)

/-- The forest, further down. -/
def shiftAll (count : Nat) : List Node → List Node
  | [] => []
  | node :: nodes => node.shift count :: shiftAll count nodes

end

theorem preorder_append (first second : List Node) :
    preorder (first ++ second) = preorder first ++ preorder second := by
  induction first with
  | nil => rfl
  | cons node first ih => rw [List.cons_append, preorder, preorder, ih, List.append_assoc]

theorem preorder_texts (texts : List Token) :
    preorder (texts.map Node.text) = texts.map Node.text := by
  induction texts with
  | nil => rfl
  | cons token texts ih => rw [List.map_cons, preorder, ih, Node.preorder, List.singleton_append]

theorem shiftAll_eq_map (count : Nat) (nodes : List Node) :
    shiftAll count nodes = nodes.map (Node.shift count) := by
  induction nodes with
  | nil => rfl
  | cons node nodes ih => rw [shiftAll, ih, List.map_cons]

mutual

theorem Node.preorder_shift (count : Nat) :
    (node : Node) → (node.shift count).preorder = node.preorder.map (Node.shift count)
  | .element tag children => by
      simp only [Node.shift, Node.preorder, List.map_cons, preorder_shiftAll count children]
  | .text token => rfl
  | .comment token => rfl
  | .doctype token => rfl

theorem preorder_shiftAll (count : Nat) :
    (nodes : List Node) → preorder (shiftAll count nodes) = (preorder nodes).map (Node.shift count)
  | [] => rfl
  | node :: nodes => by
      simp only [shiftAll, preorder, List.map_append, Node.preorder_shift count node,
        preorder_shiftAll count nodes]

end

/-! ## Positions behind line breaks -/

theorem prefixTo_breaks (count offset : Nat) (chars : List Char) :
    prefixTo (offset + count) (List.replicate count '\n' ++ chars) =
      List.replicate count '\n' ++ prefixTo offset chars := by
  induction count with
  | zero => rfl
  | succ count ih =>
      have nonzero : offset + (count + 1) ≠ 0 := by omega
      have less : offset + (count + 1) - Char.utf8Size '\n' = offset + count := rfl
      rw [List.replicate_succ, List.cons_append, prefixTo, if_neg nonzero, less, ih,
        List.cons_append]

theorem Position.advance_shift (count : Nat) (position : Position) (c : Char) :
    (position.shift count).advance c = (position.advance c).shift count := by
  unfold advance
  split <;> simp only [shift, Nat.add_right_comm]

theorem Position.after_breaks (count : Nat) (front : List Char) :
    Position.after (List.replicate count '\n' ++ front) = (Position.after front).shift count := by
  induction front using List.reverseRecOn with
  | nil =>
      rw [List.append_nil]
      induction count with
      | zero => rfl
      | succ count ih =>
          rw [List.replicate_succ', after_concat, ih]
          rfl
  | append_singleton front c ih =>
      rw [← List.append_assoc, after_concat, ih, advance_shift, after_concat]

/-- A position behind line breaks is the plain one, moved down. -/
theorem Position.ofOffset_breaks (count offset : Nat) (text : String) :
    Position.ofOffset (behindBreaks count text).toList (offset + count) =
      (Position.ofOffset text.toList offset).shift count := by
  rw [ofOffset, toList_behindBreaks, prefixTo_breaks, after_breaks, ofOffset]

theorem Position.shift_lt_shift_iff {count : Nat} {first second : Position} :
    first.shift count < second.shift count ↔ first < second := by
  change Precedes _ _ ↔ Precedes _ _
  simp only [Precedes, shift]
  omega

theorem Location.cover_shift (count : Nat) (first second : Location) :
    (first.shift count).cover (second.shift count) = (first.cover second).shift count := by
  simp only [cover, shift, min, max, Position.shift_lt_shift_iff, apply_ite (Position.shift count)]

/-! ## Lexemes behind line breaks -/

section Place

variable (count : Nat) (text : String)

theorem Slice.token_shift (slice : Slice) :
    (slice.shift count).token (behindBreaks count text) = (slice.token text).shift count := by
  simp only [token, Token.new, Token.shift, Location.shift, chars_shift, start_shift, stop_shift,
    Position.ofOffset_breaks]

theorem AttributeLexeme.place_shift (lexeme : AttributeLexeme) :
    (lexeme.shift count).place (behindBreaks count text) = (lexeme.place text).shift count := by
  cases written : lexeme.value with
  | none => simp only [place, shift, written, Option.map_none, Attribute.new, Attribute.shift,
      Slice.token_shift, Token.shift]
  | some value =>
      simp only [place, shift, written, Option.map_some, Attribute.new, Attribute.shift,
        Slice.token_shift]
      rw [← Location.cover_shift]
      rfl

theorem OpeningLexeme.place_shift (lexeme : OpeningLexeme) :
    (lexeme.shift count).place (behindBreaks count text) = (lexeme.place text).shift count := by
  simp only [place, shift, Tag.shift, Slice.token_shift, Position.ofOffset_breaks, Location.shift,
    List.map_map, Option.map_none]
  congr 1
  apply List.map_congr_left
  intro attr _
  exact AttributeLexeme.place_shift count text attr

/-- The event, further down. -/
def Event.shift : Event → Event
  | .text token => .text (token.shift count)
  | .comment token => .comment (token.shift count)
  | .doctype token => .doctype (token.shift count)
  | .opening tag standsAlone => .opening (tag.shift count) standsAlone
  | .closing whole name => .closing (whole.shift count) (name.shift count)

theorem Lexeme.place_shift (lexeme : Lexeme) :
    (lexeme.shift count).place (behindBreaks count text) = (lexeme.place text).shift count := by
  cases lexeme with
  | text slice | comment slice | doctype slice =>
      simp only [shift, place, Event.shift, Slice.token_shift]
  | opening tag =>
      simp only [shift, place, Event.shift, OpeningLexeme.place_shift]
      rfl
  | closing whole name => simp only [shift, place, Event.shift, Slice.token_shift]

end Place

/-! ## Building further down -/

/-- The open element, further down. -/
def OpenElement.shift (count : Nat) (element : OpenElement) : OpenElement :=
  ⟨element.tag.shift count, element.children.map (Node.shift count)⟩

theorem OpenElement.close_shift (count : Nat) (element : OpenElement) (closing : Option Token)
    (stop : Position) :
    (element.shift count).close (closing.map (Token.shift count)) (stop.shift count) =
      (element.close closing stop).shift count := by
  simp only [close, shift, Node.shift, shiftAll_eq_map, List.map_reverse]
  rfl

/-- Two builders hold the same, the second one further down, apart from nodes
that each had finished before. -/
def Builder.Alike (count : Nat) (before before' : List Node) (first second : Builder) : Prop :=
  ∃ roots openElements, first = ⟨roots ++ before, openElements⟩ ∧
    second = ⟨roots.map (Node.shift count) ++ before', openElements.map (OpenElement.shift count)⟩

namespace Builder.Alike

variable {count : Nat} {before before' : List Node} {first second : Builder}

theorem push (alike : Alike count before before' first second) (node : Node) :
    Alike count before before' (first.push node) (second.push (node.shift count)) := by
  rcases alike with ⟨roots, _ | ⟨inner, outer⟩, rfl, rfl⟩
  · exact ⟨node :: roots, [], rfl, rfl⟩
  · exact ⟨roots, ⟨inner.tag, node :: inner.children⟩ :: outer, rfl, rfl⟩

theorem closeInner (alike : Alike count before before' first second) (closing : Option Token)
    (stop : Position) :
    Alike count before before' (first.closeInner closing stop)
      (second.closeInner (closing.map (Token.shift count)) (stop.shift count)) := by
  rcases alike with ⟨roots, _ | ⟨inner, outer⟩, rfl, rfl⟩
  · exact ⟨roots, [], rfl, rfl⟩
  · have outside : Alike count before before' ⟨roots ++ before, outer⟩ _ :=
      ⟨roots, outer, rfl, rfl⟩
    have closed := outside.push (inner.close closing stop)
    rwa [← OpenElement.close_shift] at closed

theorem cutOff (alike : Alike count before before' first second) (stop : Position) (depth : Nat) :
    Alike count before before' (first.cutOff stop depth)
    (second.cutOff (stop.shift count) depth) := by
  induction depth generalizing first second with
  | zero => exact alike
  | succ depth ih => exact ih (alike.closeInner none stop)

theorem depthOf?_eq (alike : Alike count before before' first second) (name : String) :
    second.depthOf? name = first.depthOf? name := by
  rcases alike with ⟨roots, openElements, rfl, rfl⟩
  rw [depthOf?, depthOf?, List.findIdx?_map]
  rfl

/-- An event and the same event further down keep two builders alike. -/
theorem take (alike : Alike count before before' first second) (event : Event) :
    Alike count before before' (first.take event) (second.take (event.shift count)) := by
  cases event with
  | text token => exact alike.push (.text token)
  | comment token => exact alike.push (.comment token)
  | doctype token => exact alike.push (.doctype token)
  | opening tag standsAlone =>
      cases standsAlone with
      | true => exact alike.push (.element tag [])
      | false =>
          rcases alike with ⟨roots, openElements, rfl, rfl⟩
          exact ⟨roots, ⟨tag, []⟩ :: openElements, rfl, rfl⟩
  | closing whole name =>
      simp only [Event.shift, Builder.take, Token.chars_shift, alike.depthOf?_eq]
      cases first.depthOf? name.chars with
      | none => exact alike.push (.text whole)
      | some depth =>
          exact (alike.cutOff whole.loc.start depth).closeInner (some name) whole.loc.stop

theorem foldl_take (alike : Alike count before before' first second) (events : List Event) :
    Alike count before before' (events.foldl Builder.take first)
      ((events.map (Event.shift count)).foldl Builder.take second) := by
  induction events generalizing first second with
  | nil => exact alike
  | cons event events ih => exact ih (alike.take event)

theorem finish (alike : Alike count before before' first second) (stop : Position) :
    ∃ forest, first.finish stop = before.reverse ++ forest ∧
      second.finish (stop.shift count) = before'.reverse ++ forest.map (Node.shift count) := by
  have depth : second.openElements.length = first.openElements.length := by
    rcases alike with ⟨roots, openElements, rfl, rfl⟩
    exact List.length_map _
  rcases alike.cutOff stop first.openElements.length with ⟨roots, openElements, firstEq, secondEq⟩
  refine ⟨roots.reverse, ?_, ?_⟩
  · rw [Builder.finish, firstEq, List.reverse_append]
  · rw [Builder.finish, depth, secondEq, List.reverse_append, List.map_reverse]

end Builder.Alike

/-- Texts outside every element are finished roots. -/
theorem Builder.foldl_take_texts (texts : List Token) (roots : List Node) :
    (texts.map Event.text).foldl take ⟨roots, []⟩ =
      ⟨(texts.map Node.text).reverse ++ roots, []⟩ := by
  induction texts generalizing roots with
  | nil => rfl
  | cons token texts ih =>
      have pushed : Builder.take ⟨roots, []⟩ (.text token) = ⟨.text token :: roots, []⟩ := rfl
      rw [List.map_cons, List.foldl_cons, pushed, ih, List.map_cons, List.reverse_cons,
        List.append_assoc]
      rfl

/-- Behind texts, events that stand further down describe the same forest, further down. -/
theorem exists_forestOf_shift (count : Nat) (texts texts' : List Token) (events : List Event)
    (stop : Position) :
    ∃ forest, forestOf (texts.map Event.text ++ events) stop = texts.map Node.text ++ forest ∧
      forestOf (texts'.map Event.text ++ events.map (Event.shift count)) (stop.shift count) =
        texts'.map Node.text ++ forest.map (Node.shift count) := by
  have start : Builder.Alike count (texts.map Node.text).reverse (texts'.map Node.text).reverse
      ((texts.map Event.text).foldl Builder.take Builder.empty)
      ((texts'.map Event.text).foldl Builder.take Builder.empty) := by
    refine ⟨[], [], ?_, ?_⟩
    · exact (Builder.foldl_take_texts texts []).trans (by simp)
    · exact (Builder.foldl_take_texts texts' []).trans (by simp)
  rcases (start.foldl_take events).finish stop with ⟨forest, firstEq, secondEq⟩
  rw [List.reverse_reverse] at firstEq secondEq
  refine ⟨forest, ?_, ?_⟩
  · rw [forestOf, List.foldl_append, firstEq]
  · rw [forestOf, List.foldl_append, secondEq]

/-! ## Whole texts -/

/-- Where a text cannot end, nothing but text begins. -/
theorem Lead.of_eq_text {chars : List Char} (plain : endsText chars = false) :
    Lead.of chars = .text := by
  unfold Lead.of
  split
  · simp [endsText] at plain
  · simp [endsText] at plain
  · simp [endsText] at plain
  · simp only [endsText, Bool.or_eq_false_iff] at plain
    simp [plain.1.1]
  · rfl

/-- Where a text cannot end, it is read up to where it can. -/
theorem Slice.readText_eq_cut {slice : Slice} (unread : slice.chars ≠ [])
    (plain : endsText slice.chars = false) : slice.readText = slice.cut endsText := by
  rcases List.exists_cons_of_ne_nil unread with ⟨c, rest, front⟩
  rw [front] at plain
  simp [readText, cut, splitAt, append, front, cutBefore_cons, plain, Nat.add_assoc]

/-- What stands in front of the first place where a text can end is at most one text. -/
theorem exists_scan_eq (slice : Slice) :
    ∃ texts : List Slice, scan slice = texts.map Lexeme.text ++ scan (slice.cut endsText).2 := by
  by_cases unread : slice.chars = []
  · have rest : (slice.cut endsText).2.chars = [] := by simp [Slice.cut, unread]
    refine ⟨[], ?_⟩
    rw [scan_of_chars_eq_nil unread, scan_of_chars_eq_nil rest, List.map_nil, List.append_nil]
  · by_cases ends : endsText slice.chars = true
    · have whole : (slice.cut endsText).2 = slice := by
        rcases List.exists_cons_of_ne_nil unread with ⟨c, rest, front⟩
        rcases slice with ⟨start, chars⟩
        simp only at front ends
        subst front
        simp [Slice.cut, cutBefore_cons, ends]
      refine ⟨[], ?_⟩
      rw [whole, List.map_nil, List.nil_append]
    · have plain : endsText slice.chars = false := Bool.eq_false_iff.mpr ends
      refine ⟨[(slice.cut endsText).1], ?_⟩
      rw [scan_of_chars_ne_nil unread, Slice.next, Lead.of_eq_text plain]
      simp only [Slice.readText_eq_cut unread plain, List.map_cons, List.map_nil]

theorem cutBefore_breaks (count : Nat) (chars : List Char) :
    cutBefore endsText (List.replicate count '\n' ++ chars) =
      (List.replicate count '\n' ++ (cutBefore endsText chars).1,
        (cutBefore endsText chars).2) := by
  induction count with
  | zero => rfl
  | succ count ih =>
      have plain : endsText ('\n' :: (List.replicate count '\n' ++ chars)) = false := rfl
      rw [List.replicate_succ, List.cons_append, cutBefore_cons, plain, ih]
      rfl

/-- Behind line breaks, a text is cut as it is, but for the text at the front that they join. -/
theorem exists_scan_behindBreaks (count : Nat) (text : String) :
    ∃ first : Slice, scan (Slice.ofText (behindBreaks (count + 1) text)) =
      .text first :: (scan ((Slice.ofText text).cut endsText).2).map
        (Lexeme.shift (count + 1)) := by
  have plain : endsText (Slice.ofText (behindBreaks (count + 1) text)).chars = false := by
    rw [Slice.ofText, toList_behindBreaks, List.replicate_succ]
    rfl
  have unread : (Slice.ofText (behindBreaks (count + 1) text)).chars ≠ [] := by
    simp [Slice.ofText, List.replicate_succ]
  have rest : ((Slice.ofText (behindBreaks (count + 1) text)).cut endsText).2 =
      ((Slice.ofText text).cut endsText).2.shift (count + 1) := by
    simp only [Slice.cut, Slice.ofText, toList_behindBreaks, cutBefore_breaks, byteSize_append,
      byteSize_breaks, Slice.shift, Slice.mk.injEq, and_true]
    omega
  refine ⟨((Slice.ofText (behindBreaks (count + 1) text)).cut endsText).1, ?_⟩
  rw [scan_of_chars_ne_nil unread, Slice.next, Lead.of_eq_text plain]
  simp only [Slice.readText_eq_cut unread plain, rest, scan_shift, List.singleton_append]

theorem stop_behindBreaks (count : Nat) (text : String) :
    (Slice.ofText (behindBreaks count text)).stop = (Slice.ofText text).stop + count := by
  simp only [Slice.stop, Slice.ofText, toList_behindBreaks, byteSize_append, byteSize_breaks]
  omega

/-- Behind line breaks, a text has the same forest, moved down, but for the texts at the front. -/
theorem parse_behindBreaks (count : Nat) (text : String) :
    ∃ (texts texts' : List Token) (forest : List Node),
      parse text = texts.map Node.text ++ forest ∧
      parse (behindBreaks (count + 1) text) =
        texts'.map Node.text ++ forest.map (Node.shift (count + 1)) := by
  rcases exists_scan_eq (Slice.ofText text) with ⟨slices, scanned⟩
  rcases exists_scan_behindBreaks count text with ⟨first, scannedBehind⟩
  have events : (scan (Slice.ofText text)).map (Lexeme.place text) =
      (slices.map (Slice.token text)).map Event.text ++
        (scan ((Slice.ofText text).cut endsText).2).map (Lexeme.place text) := by
    rw [scanned, List.map_append, List.map_map, List.map_map]
    rfl
  have eventsBehind : (scan (Slice.ofText (behindBreaks (count + 1) text))).map
      (Lexeme.place (behindBreaks (count + 1) text)) =
      [first.token (behindBreaks (count + 1) text)].map Event.text ++
        ((scan ((Slice.ofText text).cut endsText).2).map (Lexeme.place text)).map
          (Event.shift (count + 1)) := by
    have placed := funext (Lexeme.place_shift (count + 1) text)
    rw [scannedBehind, List.map_cons, List.map_map, List.map_map]
    simp only [Function.comp_def, placed]
    rfl
  rcases exists_forestOf_shift (count + 1) _ _ _ _ with ⟨forest, built, builtBehind⟩
  refine ⟨slices.map (Slice.token text), [first.token (behindBreaks (count + 1) text)], forest,
    ?_, ?_⟩
  · rw [parse_eq_forestOf_place, events]
    exact built
  · rw [parse_eq_forestOf_place, eventsBehind, stop_behindBreaks, Position.ofOffset_breaks]
    exact builtBehind

end MarkupLint.Markup
