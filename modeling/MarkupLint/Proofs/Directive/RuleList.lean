import MarkupLint.Directive
import MarkupLint.Proofs.Text.WhiteSpace

/-!
# Lists of rules in directives

A list of rules ends as soon as the comment can end or a reason can follow, and the marks of both,
`-->` and two hyphens between blanks, look like parts of a list. Still a list is never cut short:
inside of a list of names, none of which is two hyphens alone, neither mark can be found
(`shortestList_list`). The names are what the list is then split into (`splitNames_list`).
-/

namespace MarkupLint.Directive

/-! ## Written lists -/

/-- Whether a character can stand in the name of a rule. -/
def isNameChar (c : Char) : Bool :=
  Text.isWord c || c == '-'

/-- The name of a rule as a directive can list it. Two hyphens alone are none:
they lead to a reason. -/
structure ListedName where
  chars : List Char
  nonempty : chars ≠ []
  plain : ∀ c ∈ chars, isNameChar c = true
  notHyphens : chars ≠ ['-', '-']

/-- The name as a text. -/
def ListedName.text (name : ListedName) : String :=
  String.ofList name.chars

/-- What stands between two names: commas and spaces. -/
structure Separator where
  chars : List Char
  nonempty : chars ≠ []
  plain : ∀ c ∈ chars, c = ',' ∨ c = ' '

/-- A list of names, with what stands between them. There is no empty list. -/
inductive NameList where
  | one (name : ListedName)
  | more (name : ListedName) (separator : Separator) (rest : NameList)

namespace NameList

/-- The list as it is written. -/
def chars : NameList → List Char
  | .one name => name.chars
  | .more name separator rest => name.chars ++ (separator.chars ++ rest.chars)

/-- The names in the list. -/
def names : NameList → List String
  | .one name => [name.text]
  | .more name _ rest => name.text :: rest.names

/-- The list names a rule, or all rules. -/
def Lists (list : NameList) (rule : String) : Prop :=
  rule ∈ list.names ∨ "all" ∈ list.names

end NameList

/-! ## Characters -/

theorem isWhiteSpace_of_isNameChar {c : Char} (plain : isNameChar c = true) :
    Text.isWhiteSpace c = false := by
  rw [isNameChar, Bool.or_eq_true, beq_iff_eq] at plain
  rcases plain with word | rfl
  · exact Text.isWhiteSpace_of_isWord word
  · decide

theorem isListChar_of_isNameChar {c : Char} (plain : isNameChar c = true) :
    isListChar c = true := by
  rw [isNameChar] at plain
  rw [isListChar, plain, Bool.true_or, Bool.true_or]

theorem ne_of_isNameChar {c other : Char} (plain : isNameChar c = true)
    (odd : isNameChar other = false) : c ≠ other := by
  rintro rfl
  rw [plain] at odd
  contradiction

theorem isSeparator_of_isNameChar {c : Char} (plain : isNameChar c = true) :
    isSeparator c = false := by
  rw [isSeparator, isWhiteSpace_of_isNameChar plain, Bool.or_false]
  exact beq_eq_false_iff_ne.mpr (ne_of_isNameChar plain (by decide))

theorem Separator.isListChar_of_mem {separator : Separator} {c : Char}
    (mem : c ∈ separator.chars) : isListChar c = true := by
  rcases separator.plain c mem with rfl | rfl <;> decide

theorem Separator.isSeparator_of_mem {separator : Separator} {c : Char}
    (mem : c ∈ separator.chars) : isSeparator c = true := by
  rcases separator.plain c mem with rfl | rfl <;> decide

/-! ## No end inside of a list -/

/-- A list of rules cannot end in front of the text: neither does the comment
end there nor does a reason follow. -/
structure NoEnd (chars : List Char) : Prop where
  unended : isEnd chars = false
  unexplained : leadsToReason chars = false

/-- What can follow a name: nothing, the closing mark, or a character that is
not part of a name. -/
inductive FollowsName : List Char → Prop where
  | nothing : FollowsName []
  | closing : FollowsName closingMark
  | divided {c : Char} {rest : List Char} (odd : isNameChar c = false) (notMark : c ≠ '>') :
      FollowsName (c :: rest)

theorem endsList_of_noEnd {chars : List Char} (noEnd : NoEnd chars) (read : List Char) :
    endsList read chars = false := by
  cases read with
  | nil => rfl
  | cons last read => simp [endsList, noEnd.unended, noEnd.unexplained]

/-- The shortest list goes on over a character in front of which it cannot end. -/
theorem shortestList_cons {read rest : List Char} {c : Char}
    (inside : endsList read (c :: rest) = false) (listed : isListChar c = true) :
    shortestList read (c :: rest) = shortestList (c :: read) rest := by
  rw [shortestList, inside, if_neg Bool.false_ne_true]
  simp only [listed, if_true]

/-- The shortest list goes on over a part in which it cannot end. -/
theorem shortestList_append {part rest : List Char} (listed : ∀ c ∈ part, isListChar c = true)
    (noEnd : ∀ c after, c :: after <:+ part → NoEnd (c :: after ++ rest)) (read : List Char) :
    shortestList read (part ++ rest) = shortestList (part.reverse ++ read) rest := by
  induction part generalizing read with
  | nil => rfl
  | cons c part ih =>
      rcases List.forall_mem_cons.mp listed with ⟨first, others⟩
      have inside := endsList_of_noEnd (noEnd c part (List.suffix_refl _)) read
      have later :=
        ih others (fun d after ends => noEnd d after (ends.trans (List.suffix_cons c part)))
        (c :: read)
      rw [List.cons_append] at inside ⊢
      rw [shortestList_cons inside first, later, List.reverse_cons, List.append_assoc,
        List.singleton_append]

/-- The rest of a name is not taken for the closing mark, whatever follows. -/
theorem append_ne_closingMark {chars tail : List Char} (plain : ∀ c ∈ chars, isNameChar c = true)
    (nonempty : chars ≠ []) (follows : FollowsName tail) : chars ++ tail ≠ closingMark := by
  intro same
  cases follows with
  | nothing =>
      have mark : '>' ∈ chars := by
        rw [List.append_nil] at same
        rw [same]
        decide
      exact absurd (plain _ mark) (by decide)
  | closing => exact nonempty (List.append_left_eq_self.mp same)
  | @divided c rest odd notMark =>
      have mem : c ∈ closingMark := by
        rw [← same]
        exact List.mem_append_right _ List.mem_cons_self
      simp only [closingMark, List.mem_cons, List.not_mem_nil, or_false] at mem
      rcases mem with rfl | rfl | rfl
      · exact absurd odd (by decide)
      · exact absurd odd (by decide)
      · exact notMark rfl

/-- What decides on an end is what stands behind the white space. -/
theorem noEnd_of_dropWhile {chars rest : List Char} {first : Char}
    (skipped : chars.dropWhile Text.isWhiteSpace = first :: rest)
    (unlike : first :: rest ≠ closingMark) (notColon : first ≠ ':')
    (notHyphens : ∀ reason, first :: rest = '-' :: '-' :: reason → startsBlank chars = false ∨
      startsBlank reason = false) :
    NoEnd chars := by
  constructor
  · simp [isEnd, skipped, unlike]
  · rw [leadsToReason, skipped]
    split
    · rename_i colon
      exact absurd (List.cons.inj colon).1 notColon
    · rename_i reason hyphens
      rcases notHyphens reason hyphens with front | behind
      · simp [front]
      · simp [behind]
    · rfl

/-- No list ends inside of a name or in front of one. -/
theorem noEnd_of_name {first : Char} {rest tail : List Char}
    (plain : ∀ c ∈ first :: rest, isNameChar c = true) (follows : FollowsName tail) :
    NoEnd (first :: rest ++ tail) := by
  have nameChar := plain first List.mem_cons_self
  have solid := isWhiteSpace_of_isNameChar nameChar
  apply noEnd_of_dropWhile (List.dropWhile_cons_of_neg (by simp [solid]))
  · exact append_ne_closingMark plain (List.cons_ne_nil _ _) follows
  · exact ne_of_isNameChar nameChar (by decide)
  · intro reason _
    exact Or.inl solid

/-- A name is not taken for the mark of a reason: it goes on behind two hyphens at its front. -/
theorem startsBlank_of_name (name : ListedName) {tail : List Char} (follows : FollowsName tail)
    {reason : List Char} (marked : name.chars ++ tail = '-' :: '-' :: reason) :
    startsBlank reason = false := by
  rcases shape : name.chars with _ | ⟨first, _ | ⟨second, _ | ⟨third, rest⟩⟩⟩
  · exact absurd shape name.nonempty
  · -- one hyphen, and the other one belongs to the closing mark
    rw [shape] at marked
    obtain rfl := (List.cons.inj marked).2
    cases follows with
    | closing => decide
    | divided odd _ => exact absurd odd (by decide)
  · rw [shape, List.cons_append, List.cons_append, List.cons.injEq, List.cons.injEq] at marked
    rcases marked with ⟨rfl, rfl, _⟩
    exact absurd shape name.notHyphens
  · rw [shape, List.cons_append, List.cons_append, List.cons.injEq, List.cons.injEq] at marked
    rcases marked with ⟨_, _, rfl⟩
    exact isWhiteSpace_of_isNameChar (name.plain third (by simp [shape]))

/-- White space in a separator is skipped up to a comma or up to what follows the separator. -/
theorem dropWhile_separator {chars next : List Char} (plain : ∀ c ∈ chars, c = ',' ∨ c = ' ')
    (solid : next.dropWhile Text.isWhiteSpace = next) :
    (∃ after, (chars ++ next).dropWhile Text.isWhiteSpace = ',' :: after) ∨
      (chars ++ next).dropWhile Text.isWhiteSpace = next := by
  induction chars with
  | nil => exact Or.inr solid
  | cons c chars ih =>
      rcases List.forall_mem_cons.mp plain with ⟨rfl | rfl, others⟩
      · exact Or.inl ⟨chars ++ next, List.dropWhile_cons_of_neg (by decide)⟩
      · rw [List.cons_append, List.dropWhile_cons_of_pos (by decide)]
        exact ih others

theorem ListedName.exists_cons (name : ListedName) :
    ∃ first rest, name.chars = first :: rest ∧ isNameChar first = true := by
  rcases List.exists_cons_of_ne_nil name.nonempty with ⟨first, rest, shape⟩
  exact ⟨first, rest, shape, name.plain first (by simp [shape])⟩

/-- No list ends inside of a separator or in front of one, as a name follows. -/
theorem noEnd_of_separator {chars : List Char} (plain : ∀ c ∈ chars, c = ',' ∨ c = ' ')
    (name : ListedName) {tail : List Char} (follows : FollowsName tail) :
    NoEnd (chars ++ (name.chars ++ tail)) := by
  rcases name.exists_cons with ⟨first, rest, shape, nameChar⟩
  have solid : (name.chars ++ tail).dropWhile Text.isWhiteSpace = name.chars ++ tail := by
    rw [shape]
    exact List.dropWhile_cons_of_neg (by simp [isWhiteSpace_of_isNameChar nameChar])
  rcases dropWhile_separator plain solid with ⟨after, comma⟩ | skipped
  · apply noEnd_of_dropWhile comma
    · simp [closingMark]
    · decide
    · intro reason hyphens
      exact absurd (List.cons.inj hyphens).1 (by decide)
  · have start : name.chars ++ tail = first :: (rest ++ tail) := by rw [shape, List.cons_append]
    apply noEnd_of_dropWhile (skipped.trans start)
    · rw [← start]
      exact append_ne_closingMark name.plain name.nonempty follows
    · exact ne_of_isNameChar nameChar (by decide)
    · intro reason hyphens
      exact Or.inr (startsBlank_of_name name follows (start.trans hyphens))

/-! ## Reading a list -/

theorem followsName_separator (separator : Separator) (rest : List Char) :
    FollowsName (separator.chars ++ rest) := by
  rcases List.exists_cons_of_ne_nil separator.nonempty with ⟨c, chars, shape⟩
  have plain := separator.plain c (by simp [shape])
  rw [shape, List.cons_append]
  rcases plain with rfl | rfl <;> exact .divided (by decide) (by decide)

/-- A list begins with a name. -/
theorem NameList.exists_name (list : NameList) {tail : List Char} (follows : FollowsName tail) :
    ∃ (name : ListedName) (after : List Char), list.chars ++ tail = name.chars ++ after ∧
      FollowsName after := by
  cases list with
  | one name => exact ⟨name, tail, rfl, follows⟩
  | more name separator rest =>
      refine ⟨name, separator.chars ++ (rest.chars ++ tail), ?_, followsName_separator _ _⟩
      simp only [chars, List.append_assoc]

theorem shortestList_name (name : ListedName) {tail : List Char} (follows : FollowsName tail)
    (read : List Char) :
    shortestList read (name.chars ++ tail) = shortestList (name.chars.reverse ++ read) tail := by
  apply shortestList_append
  · intro c mem
    exact isListChar_of_isNameChar (name.plain c mem)
  · intro c after ends
    exact noEnd_of_name (fun d mem => name.plain d (ends.mem mem)) follows

theorem shortestList_separator (separator : Separator) (list : NameList) {tail : List Char}
    (follows : FollowsName tail) (read : List Char) :
    shortestList read (separator.chars ++ (list.chars ++ tail)) =
      shortestList (separator.chars.reverse ++ read) (list.chars ++ tail) := by
  rcases list.exists_name follows with ⟨name, after, start, afterName⟩
  rw [start]
  apply shortestList_append
  · intro c mem
    exact separator.isListChar_of_mem mem
  · intro c rest ends
    exact noEnd_of_separator (fun d mem => separator.plain d (ends.mem mem)) name afterName

/-- A list of names is never cut short. -/
theorem shortestList_list (list : NameList) {tail : List Char} (follows : FollowsName tail)
    (read : List Char) :
    shortestList read (list.chars ++ tail) = shortestList (list.chars.reverse ++ read) tail := by
  induction list generalizing read with
  | one name => exact shortestList_name name follows read
  | more name separator rest ih =>
      simp only [NameList.chars, List.append_assoc, List.reverse_append]
      rw [shortestList_name name (followsName_separator _ _),
        shortestList_separator separator rest follows, ih]

/-- A list begins with a character of a name. -/
theorem NameList.exists_cons (list : NameList) :
    ∃ first rest, list.chars = first :: rest ∧ isNameChar first = true := by
  rcases list.exists_name .nothing with ⟨name, after, start, _⟩
  rcases name.exists_cons with ⟨first, rest, shape, plain⟩
  rw [List.append_nil, shape, List.cons_append] at start
  exact ⟨first, rest ++ after, start, plain⟩

/-- A list ends with a character of a name. -/
theorem NameList.exists_concat (list : NameList) :
    ∃ front last, list.chars = front ++ [last] ∧ isNameChar last = true := by
  induction list with
  | one name =>
      rcases List.eq_nil_or_concat' name.chars with empty | ⟨front, last, shape⟩
      · exact absurd empty name.nonempty
      · exact ⟨front, last, shape, name.plain last (by simp [shape])⟩
  | more name separator rest ih =>
      rcases ih with ⟨front, last, shape, plain⟩
      refine ⟨name.chars ++ (separator.chars ++ front), last, ?_, plain⟩
      simp only [chars, shape, List.append_assoc]

/-- Behind a list of names, the list ends if the comment ends or a reason follows. -/
theorem endsList_list (list : NameList) (read tail : List Char) :
    endsList (list.chars.reverse ++ read) tail = (isEnd tail || leadsToReason tail) := by
  rcases list.exists_concat with ⟨front, last, shape, plain⟩
  rw [shape, List.reverse_concat, List.cons_append, endsList, isWhiteSpace_of_isNameChar plain,
    Bool.not_false, Bool.true_and]

/-- A list of names is read up to an end of the comment or a reason that stands behind it. -/
theorem shortestList_of_ends (list : NameList) {tail : List Char} (follows : FollowsName tail)
    (ends : (isEnd tail || leadsToReason tail) = true) :
    shortestList [] (list.chars ++ tail) = some list.chars := by
  rw [shortestList_list list follows, shortestList.eq_def, endsList_list, if_pos ends,
    List.append_nil, List.reverse_reverse]

/-! ## Splitting a list -/

theorem splitNames_append {chars : List Char} (plain : ∀ c ∈ chars, isSeparator c = false)
    (name rest : List Char) :
    splitNames name (chars ++ rest) = splitNames (chars.reverse ++ name) rest := by
  induction chars generalizing name with
  | nil => rfl
  | cons c chars ih =>
      rcases List.forall_mem_cons.mp plain with ⟨first, others⟩
      rw [List.cons_append, splitNames, first, if_neg Bool.false_ne_true, ih others,
        List.reverse_cons, List.append_assoc, List.singleton_append]

theorem splitNames_separators {chars : List Char} (separators : ∀ c ∈ chars, isSeparator c = true)
    (rest : List Char) : splitNames [] (chars ++ rest) = splitNames [] rest := by
  induction chars with
  | nil => rfl
  | cons c chars ih =>
      rcases List.forall_mem_cons.mp separators with ⟨first, others⟩
      rw [List.cons_append, splitNames, if_pos first, List.isEmpty_nil, if_pos rfl, ih others]

/-- A name ends at a separator and at the end of the list. -/
theorem splitNames_of_divided {name rest : List Char} (nonempty : name ≠ [])
    (divided : ∀ c ∈ rest.head?, isSeparator c = true) :
    splitNames name rest = String.ofList name.reverse :: splitNames [] rest := by
  have unfinished : name.isEmpty = false := List.isEmpty_eq_false_iff.mpr nonempty
  cases rest with
  | nil => simp [splitNames, unfinished]
  | cons c rest =>
      have separator := divided c rfl
      simp [splitNames, separator, unfinished]

theorem splitNames_name (name : ListedName) {rest : List Char}
    (divided : ∀ c ∈ rest.head?, isSeparator c = true) :
    splitNames [] (name.chars ++ rest) = name.text :: splitNames [] rest := by
  have nonempty : name.chars.reverse ++ [] ≠ [] := by simp [name.nonempty]
  rw [splitNames_append fun c mem => isSeparator_of_isNameChar (name.plain c mem),
    splitNames_of_divided nonempty divided, List.append_nil, List.reverse_reverse, ListedName.text]

/-- Splitting a list gives its names. -/
theorem splitNames_list (list : NameList) {rest : List Char}
    (divided : ∀ c ∈ rest.head?, isSeparator c = true) :
    splitNames [] (list.chars ++ rest) = list.names ++ splitNames [] rest := by
  induction list with
  | one name => exact splitNames_name name divided
  | more name separator others ih =>
      have separators : ∀ c ∈ separator.chars, isSeparator c = true := fun c =>
        separator.isSeparator_of_mem
      have behind : ∀ c ∈ (separator.chars ++ (others.chars ++ rest)).head?,
          isSeparator c = true := by
        intro c mem
        rw [List.head?_append_of_ne_nil _ separator.nonempty] at mem
        exact separators c (List.mem_of_mem_head? mem)
      simp only [NameList.chars, NameList.names, List.append_assoc]
      rw [splitNames_name name behind, splitNames_separators separators, ih, List.cons_append]

theorem splitNames_chars (list : NameList) : splitNames [] list.chars = list.names := by
  have split : splitNames [] (list.chars ++ []) = list.names ++ [] :=
    splitNames_list list (by simp)
  rwa [List.append_nil, List.append_nil] at split

end MarkupLint.Directive
