import MarkupLint.Proofs.Markup.Checked.Reading
import MarkupLint.Proofs.Markup.Pairing

/-!
# The lexical form of leaves

What a comment, a declaration or a text looks like can be said without regard to how it is read:
by what it starts with, by the mark it lasts through, and by what may follow it. Every leaf
outside raw text has the form of its kind, and reaches as far as that form allows.
-/

namespace MarkupLint.Markup

/-! ## Marks -/

/-- `written`, with `after` behind it, lasts through the first `mark`, or to
the end if there is none. -/
def LastsThrough (mark written after : List Char) : Prop :=
  (∃ body, written = body ++ mark ∧
      ∀ earlier, earlier ++ mark <+: written ++ after → body.length ≤ earlier.length) ∨
    (after = [] ∧ ¬ mark <:+: written)

/-- A cut in front of a mark, and the mark, is what lasts through it. -/
theorem lastsThrough_cutBefore {mark : List Char} (marked : mark ≠ []) (chars : List Char) :
    LastsThrough mark
      ((cutBefore mark.isPrefixOf chars).1 ++ (cutBefore mark.isPrefixOf chars).2.take mark.length)
      ((cutBefore mark.isPrefixOf chars).2.drop mark.length) := by
  have whole := cutBefore_append mark.isPrefixOf chars
  have passed : ∀ before after, (cutBefore mark.isPrefixOf chars).1 = before ++ after →
      after ≠ [] →
      ¬ mark <+: after ++ (cutBefore mark.isPrefixOf chars).2 := by
    intro before after split some starts
    have fails := stop_eq_false_of_passed split some
    rw [List.isPrefixOf_iff_prefix.mpr starts] at fails
    cases fails
  cases left : (cutBefore mark.isPrefixOf chars).2 with
  | nil =>
      rw [left] at passed
      refine Or.inr ⟨List.drop_nil, ?_⟩
      rw [List.take_nil, List.append_nil]
      rintro ⟨before, after, split⟩
      refine passed before (mark ++ after) (by rw [← split, List.append_assoc])
        (by simp [marked]) ?_
      rw [List.append_nil]
      exact List.prefix_append mark after
  | cons c rest =>
      have starts : mark <+: c :: rest :=
        List.isPrefixOf_iff_prefix.mp (cutBefore_snd_eq_cons left)
      obtain ⟨tail, stands⟩ := starts
      rw [left] at passed whole
      rw [← stands, List.take_left, List.drop_left]
      refine Or.inl ⟨_, rfl, ?_⟩
      rintro earlier ⟨behind, same⟩
      -- an earlier mark would begin inside what was passed
      apply Nat.le_of_not_lt
      intro shorter
      rw [List.append_assoc, List.append_assoc] at same
      obtain ⟨between, split, marks⟩ :=
        (List.append_eq_append_iff.mp same).resolve_right (by
          rintro ⟨between, rfl, -⟩
          simp at shorter)
      refine passed earlier between split ?_ ?_
      · rintro rfl
        simp [split] at shorter
      · rw [← stands, ← marks]
        exact List.prefix_append mark behind

namespace Slice

theorem chars_splitThrough (test : Char → Bool) (slice : Slice) :
    (slice.splitThrough test).1.chars = slice.chars.takeWhile (fun c => !test c) ++
        (slice.chars.dropWhile fun c => !test c).take 1 ∧
      (slice.splitThrough test).2.chars = (slice.chars.dropWhile fun c => !test c).drop 1 := by
  rw [← chars_splitWhile_fst, ← chars_splitWhile_snd]
  exact ⟨rfl, rfl⟩

/-- What is read through a character lasts through it. -/
theorem lastsThrough_splitThrough (mark : Char) (slice : Slice) :
    LastsThrough [mark]
    (slice.splitThrough (· == mark)).1.chars (slice.splitThrough (· == mark)).2.chars := by
  have through := lastsThrough_cutBefore (List.cons_ne_nil mark []) slice.chars
  rw [Checked.isPrefixOf_singleton] at through
  exact through

/-- What is read through a character starts with all that stands in front of it. -/
theorem prefix_splitThrough {test : Char → Bool} {slice : Slice} {front : List Char}
    (starts : front <+: slice.chars) (unmarked : ∀ c ∈ front, (!test c) = true) :
    front <+: (slice.splitThrough test).1.chars := by
  obtain ⟨rest, same⟩ := starts
  rw [(chars_splitThrough test slice).1, ← same, List.takeWhile_append_of_pos unmarked,
    List.append_assoc]
  exact List.prefix_append front _

/-- A closing tag is all that lasts through the first bracket behind its beginning. -/
theorem readClosing_eq_splitThrough {slice : Slice} {rest : List Char}
    (front : slice.chars = '<' :: '/' :: rest) :
    slice.readClosing.1.chars = (slice.splitThrough (· == '>')).1.chars ∧
      slice.readClosing.2.2.chars = (slice.splitThrough (· == '>')).2.chars := by
  have dropped : (slice.drop 2).chars = rest := by rw [drop, splitAt, front]; rfl
  have tail := chars_splitThrough (· == '>') ((slice.drop 2).splitWhile isTagNameChar).2
  rw [chars_splitWhile_snd, dropped] at tail
  have opened : slice.chars =
      '<' :: '/' :: rest.takeWhile isTagNameChar ++ rest.dropWhile isTagNameChar := by
    rw [front, List.cons_append, List.cons_append, List.takeWhile_append_dropWhile]
  have unmarked : ∀ c ∈ '<' :: '/' :: rest.takeWhile isTagNameChar, (!(c == '>')) = true := by
    simp only [List.forall_mem_cons]
    refine ⟨rfl, rfl, fun c mem => ?_⟩
    have named := List.mem_takeWhile_imp mem
    simp only [isTagNameChar, Bool.and_eq_true, bne_iff_ne] at named
    simpa using named.2
  have whole := chars_splitThrough (· == '>') slice
  rw [opened, List.takeWhile_append_of_pos unmarked,
    List.dropWhile_append_of_pos unmarked] at whole
  constructor
  · change slice.chars.take 2 ++ ((slice.drop 2).splitWhile isTagNameChar).1.chars ++
      (((slice.drop 2).splitWhile isTagNameChar).2.splitThrough (· == '>')).1.chars = _
    rw [chars_splitWhile_fst, dropped, tail.1, whole.1, front]
    simp
  · exact tail.2.trans whole.2.symm

end Slice

/-! ## Forms -/

/-- Behind an opening bracket, the character may begin markup. -/
def BeginsMarkup (c : Char) : Prop :=
  c.isAlpha = true ∨ c = '/' ∨ c = '!'

/-- A closing tag that closes nothing. -/
structure StrayCloser (written after : List Char) : Prop where
  front : ∃ c, ['<', '/', c] <+: written ∧ c.isAlpha = true
  through : LastsThrough ['>'] written after

/-- A run of text: it starts no markup, holds no bracket behind its first character that may start
some, and ends with the input or in front of such a bracket. -/
structure PlainText (written after : List Char) : Prop where
  not_declaration : ¬ ['<', '!'] <+: written ++ after
  not_opening : ∀ c, ['<', c] <+: written ++ after → c.isAlpha = false
  not_closing : ∀ c, ['<', '/', c] <+: written ++ after → c.isAlpha = false
  inside : ∀ first before more, written = first :: before ++ '<' :: more →
    ∀ c ∈ (more ++ after).head?, ¬ BeginsMarkup c
  ends : after = [] ∨ ∃ c more, after = '<' :: c :: more ∧ BeginsMarkup c

/-- The leaf has the form of its kind, with `after` behind it in the text. -/
inductive LexicalForm (after : List Char) : Node → Prop where
  | comment {token : Token} {body : List Char}
      (written : token.chars.toList = "<!--".toList ++ body)
      (through : LastsThrough "-->".toList body after) : LexicalForm after (.comment token)
  | doctype {token : Token} (front : "<!".toList <+: token.chars.toList)
      (uncommented : ¬ "<!--".toList <+: token.chars.toList ++ after)
      (through : LastsThrough ">".toList token.chars.toList after) :
      LexicalForm after (.doctype token)
  | text {token : Token} (nonempty : token.chars.toList ≠ [])
      (form : StrayCloser token.chars.toList after ∨ PlainText token.chars.toList after) :
      LexicalForm after (.text token)

namespace Lead

variable {chars : List Char}

theorem exists_of_eq_doctype (lead : Lead.of chars = .doctype) :
    ['<', '!'] <+: chars ∧ ¬ ['<', '!', '-', '-'] <+: chars := by
  rw [of_eq] at lead
  split at lead
  · cases lead
  · rename_i uncommented
    split at lead
    · rename_i declares
      exact ⟨List.isPrefixOf_iff_prefix.mp declares, mt List.isPrefixOf_iff_prefix.mpr uncommented⟩
    · split at lead
      · cases lead
      · split at lead <;> cases lead

/-- What begins a text begins no markup. -/
theorem begins_nothing_of_eq_text (lead : Lead.of chars = .text) :
    ¬ ['<', '!'] <+: chars ∧ (∀ c, ['<', c] <+: chars → c.isAlpha = false) ∧
      ∀ c, ['<', '/', c] <+: chars → c.isAlpha = false := by
  refine ⟨?_, ?_, ?_⟩
  · rintro ⟨rest, rfl⟩
    rw [List.cons_append, List.cons_append, List.nil_append, of_eq] at lead
    split at lead
    · cases lead
    · have declares : ['<', '!'].isPrefixOf ('<' :: '!' :: rest) = true := rfl
      rw [if_pos declares] at lead
      cases lead
  · rintro c ⟨rest, rfl⟩
    rw [Bool.eq_false_iff]
    intro letter
    rw [List.cons_append, List.cons_append, of_opening letter] at lead
    cases lead
  · rintro c ⟨rest, rfl⟩
    rw [Bool.eq_false_iff]
    intro letter
    rw [List.cons_append, List.cons_append, List.cons_append, of_closing letter] at lead
    cases lead

end Lead

/-- What may follow a text is a bracket that may start markup. -/
theorem endsText_eq_true_iff {chars : List Char} :
    endsText chars = true ↔ ∃ c more, chars = '<' :: c :: more ∧ BeginsMarkup c := by
  constructor
  · intro ends
    unfold endsText at ends
    split at ends
    · rename_i c more
      simp only [Bool.or_eq_true, beq_iff_eq, or_assoc] at ends
      exact ⟨c, more, rfl, ends⟩
    · cases ends
  · rintro ⟨c, more, rfl, begins⟩
    simpa [endsText, BeginsMarkup, or_assoc] using begins

theorem plainText_of_readText {slice whole rest : Slice} (lead : Lead.of slice.chars = .text)
    (unread : slice.chars ≠ []) (read : slice.readText = (whole, rest)) :
    PlainText whole.chars rest.chars := by
  obtain ⟨first, others, front⟩ := List.exists_cons_of_ne_nil unread
  have splits := slice.readText_splits
  have wholeChars : whole.chars = first :: (cutBefore endsText others).1 := by
    have taken : slice.readText.1.chars = slice.chars.take 1 ++
        (cutBefore endsText (slice.chars.drop 1)).1 := rfl
    rw [read, front] at taken
    exact taken
  have restChars : rest.chars = (cutBefore endsText others).2 := by
    have left : slice.readText.2.chars = (cutBefore endsText (slice.chars.drop 1)).2 := rfl
    rw [read, front] at left
    exact left
  rw [read] at splits
  obtain ⟨notDeclaration, notOpening, notClosing⟩ := Lead.begins_nothing_of_eq_text lead
  rw [splits.chars] at notDeclaration notOpening notClosing
  refine ⟨notDeclaration, notOpening, notClosing, ?_, ?_⟩
  · intro start before more written c head begins
    rw [wholeChars, List.cons_append] at written
    have fails := stop_eq_false_of_passed (List.cons.inj written).2 (List.cons_ne_nil _ _)
    rw [← restChars, ← Bool.not_eq_true, List.cons_append, endsText_eq_true_iff] at fails
    obtain ⟨tail, behind⟩ := List.head?_eq_some_iff.mp head
    exact fails ⟨c, tail, by rw [behind], begins⟩
  · rw [restChars]
    cases left : (cutBefore endsText others).2 with
    | nil => exact Or.inl rfl
    | cons c tail => exact Or.inr (endsText_eq_true_iff.mp (cutBefore_snd_eq_cons left))

/-- Every leaf that is read has the form of its kind. -/
theorem Leaf.lexicalForm {text : String} {above : List String} {slice rest : Slice} {node : Node}
    (leaf : Leaf text above slice node rest) : LexicalForm rest.chars node := by
  cases leaf with
  | @text whole _ unread lead read =>
      have form := plainText_of_readText lead unread read
      have splits := slice.readText_splits
      have shorter := Slice.length_readText_lt unread
      rw [read] at splits shorter
      have written : (whole.token text).chars.toList = whole.chars := String.toList_ofList
      exact .text (by rw [written]; exact splits.chars_ne_nil shorter)
        (by rw [written]; exact Or.inr form)
  | @comment whole _ lead read =>
      obtain ⟨body, front⟩ := Lead.exists_of_eq_comment lead
      have marked : ['-', '-', '>'] ≠ [] := List.cons_ne_nil _ _
      have through := lastsThrough_cutBefore marked body
      have wholeChars : slice.readComment.1.chars = slice.chars.take 4 ++
          (cutBefore endsComment (slice.chars.drop 4)).1 ++
          (cutBefore endsComment (slice.chars.drop 4)).2.take 3 := rfl
      have restChars : slice.readComment.2.chars =
          (cutBefore endsComment (slice.chars.drop 4)).2.drop 3 := rfl
      rw [read, front, List.append_assoc] at wholeChars
      rw [read, front] at restChars
      have written : (whole.token text).chars.toList = whole.chars := String.toList_ofList
      rw [Checked.isPrefixOf_commentEnd] at through
      rw [restChars]
      exact .comment (written.trans wholeChars) through
  | @doctype whole _ lead read =>
      obtain ⟨front, uncommented⟩ := Lead.exists_of_eq_doctype lead
      have splits := slice.splitThrough_splits (· == '>')
      have through := slice.lastsThrough_splitThrough '>'
      have starts : ['<', '!'] <+: (slice.splitThrough (· == '>')).1.chars :=
        Slice.prefix_splitThrough front (by simp)
      rw [read] at splits through starts
      have written : (whole.token text).chars.toList = whole.chars := String.toList_ofList
      rw [splits.chars] at uncommented
      rw [← written] at through starts uncommented
      exact .doctype starts uncommented through
  | @stray whole _ _ lead read unmatched =>
      obtain ⟨c, chars, front, letter⟩ := Lead.exists_of_eq_closing lead
      have through := slice.lastsThrough_splitThrough '>'
      obtain ⟨wholeChars, restChars⟩ := Slice.readClosing_eq_splitThrough front
      have named : c ≠ '>' := by
        rintro rfl
        cases letter
      have opened : ['<', '/', c] <+: slice.chars := ⟨chars, front.symm⟩
      have starts : ['<', '/', c] <+: (slice.splitThrough (· == '>')).1.chars :=
        Slice.prefix_splitThrough opened (by simp [named])
      rw [← wholeChars, read] at starts
      rw [← wholeChars, ← restChars, read] at through
      have written : (whole.token text).chars.toList = whole.chars := String.toList_ofList
      rw [← written] at starts through
      refine .text ?_ (Or.inl ⟨⟨c, starts, letter⟩, through⟩)
      exact fun empty => by simp [empty] at starts

/-! ## Whole texts -/

/-- Every leaf outside raw text stands in the text where it says it does, and has, with what
follows it there, the form of its kind. -/
theorem leaves_have_lexicalForm (text : String) (ancestors : List Tag) (node : Node)
    (descends : Descends (parse text) ancestors node)
    (ordinary : ∀ tag ∈ ancestors, isRawTextElement tag.name = false) (leaf : node.tag? = none) :
    ∃ before after, text.toList = before ++ node.label.toList ++ after ∧
      byteSize before = node.loc.start.offset ∧
      byteSize (before ++ node.label.toList) = node.loc.stop.offset ∧ LexicalForm after node := by
  obtain ⟨last, finished, laid⟩ := parse_laid text
  obtain ⟨start, stop, ends, read⟩ := descends.exists_nodeRead ordinary laid
  cases read with
  | element element => cases leaf
  | leaf read =>
      obtain ⟨startOffset, stopOffset, -⟩ := read.span ends
      obtain ⟨whole, splits, -, kind⟩ := read.exists_whole
      obtain ⟨before, chars, offset⟩ := ends
      have label : node.label.toList = whole.chars := by
        rcases kind with rfl | rfl | rfl <;> exact String.toList_ofList
      have size : byteSize before = start.start := by rw [offset, Slice.ofText, Nat.zero_add]
      refine ⟨before, stop.chars, ?_, ?_, ?_, read.lexicalForm⟩
      · rw [label, List.append_assoc, ← splits.chars]
        exact chars
      · rw [size, startOffset]
      · rw [label, byteSize_append, size, stopOffset, splits.next, Slice.stop, splits.start]

/-- A text with a bracket in it, a closing tag that closes nothing, and a comment that is never
ended, since its mark would overlap with its beginning. -/
theorem leaves_have_lexicalForm_unended :
    ∃ tag children, Node.element tag children ∈ parse "<p>é < 2</b x><!-->" ∧
      isRawTextElement tag.name = false ∧ children.map Node.label = ["é < 2", "</b x>", "<!-->"] ∧
      ∀ node ∈ children, node.tag? = none ∧ ∃ before after,
        "<p>é < 2</b x><!-->".toList = before ++ node.label.toList ++ after ∧
          byteSize before = node.loc.start.offset ∧
          byteSize (before ++ node.label.toList) = node.loc.stop.offset ∧
          LexicalForm after node := by
  have found : ((parse "<p>é < 2</b x><!-->").any fun root =>
      (root.tag?.any fun tag => !isRawTextElement tag.name) &&
        (root.children.map Node.label == ["é < 2", "</b x>", "<!-->"] &&
          root.children.all fun node => node.tag?.isNone)) = true := by decide +kernel
  simp only [List.any_eq_true, Option.any_eq_true, Bool.and_eq_true, Bool.not_eq_true', beq_iff_eq,
    List.all_eq_true, Option.isNone_iff_eq_none] at found
  obtain ⟨root, mem, ⟨tag, tag?, ordinary⟩, labels, leaves⟩ := found
  rw [Node.eq_element_of_tag? tag?] at mem
  refine ⟨tag, root.children, mem, ordinary, labels, fun node nodeMem => ⟨leaves node nodeMem, ?_⟩⟩
  exact leaves_have_lexicalForm _ [tag] node (.down mem (.here nodeMem))
    (List.forall_mem_singleton.mpr ordinary) (leaves node nodeMem)

end MarkupLint.Markup
