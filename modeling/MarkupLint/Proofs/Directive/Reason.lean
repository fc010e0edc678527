import MarkupLint.Markup.Forest
import MarkupLint.Proofs.Directive.Written

/-!
# Reasons in directives

A directive may go on with a reason. A reason that stands on one line makes no difference to what
is read (`ofComment?_explained`). One that is broken over several lines does: behind a colon the
whole comment is no directive any more, and behind two hyphens either it is none, or the hyphens
and what follows them are taken for further names (`ofComment?_broken`).
-/

namespace MarkupLint

open Markup

namespace Directive

/-- What leads to a reason. -/
inductive ReasonMark where
  | colon
  | hyphens
deriving DecidableEq, Repr

/-- The mark as it is written. -/
def ReasonMark.chars : ReasonMark → List Char
  | .colon => [':', ' ']
  | .hyphens => [' ', '-', '-', ' ']

/-- The text of a comment with a reason behind its list of rules. -/
def Written.explained (written : Written) (mark : ReasonMark) (reason : String) : String :=
  written.textWith (mark.chars ++ reason.toList)

/-! ## Reasons on one line -/

theorem mem_trimChars_append_closingMark {c : Char} {chars : List Char}
    (mem : c ∈ Text.trimChars chars) : c ∈ Text.trimChars (chars ++ closingMark) := by
  have left : (chars.dropWhile Text.isWhiteSpace).isEmpty ≠ true := by
    intro empty
    rw [Text.trimChars, List.isEmpty_iff.mp empty] at mem
    contradiction
  rw [Text.trimChars, List.dropWhile_append, if_neg left, trimEnd_append_closingMark]
  apply List.mem_append_left
  rw [Text.trimChars, Text.trimEnd_eq_rdropWhile] at mem
  exact (List.rdropWhile_prefix _ _).mem mem

/-- In front of the closing mark, a reason is a text on one line. -/
theorem isReason_append_closingMark (chars : List Char) :
    isReason (chars ++ closingMark) = isOneLine chars := by
  have front : (chars ++ closingMark).take ((chars ++ closingMark).length - closingMark.length) =
      chars := by
    rw [List.length_append, Nat.add_sub_cancel, List.take_left]
  have suffixed : closingMark.isSuffixOf (chars ++ closingMark) = true :=
    List.isSuffixOf_iff_suffix.mpr (List.suffix_append _ _)
  rw [isReason, front, suffixed, Bool.true_and]
  -- with the closing mark, no fewer line breaks stand inside
  have fewer : isOneLine (chars ++ closingMark) = true → isOneLine chars = true := by
    simp only [isOneLine, Bool.not_eq_true', List.contains_eq_mem, decide_eq_false_iff_not]
    exact fun absent mem => absent (mem_trimChars_append_closingMark mem)
  rw [Bool.eq_iff_iff, Bool.or_eq_true]
  exact ⟨fun either => either.elim fewer id, Or.inr⟩

/-- White space around a reason makes no difference. -/
theorem isOneLine_between (reason : List Char) (blanks : Blanks) :
    isOneLine (' ' :: (reason ++ blanks.chars)) = isOneLine reason := by
  rw [isOneLine, Text.trimChars_cons_of_blank (by decide),
    Text.trimChars_append_of_blank _ blanks.blank, isOneLine]

/-- What follows the list of rules in a closed comment with a reason. -/
def reasonTail (mark : ReasonMark) (reason : List Char) (trail : Blanks) : List Char :=
  mark.chars ++ (reason ++ (trail.chars ++ closingMark))

theorem ofComment?_reasonTail {written : Written} (closed : written.closed = true)
    (mark : ReasonMark) (reason : String) :
    ofComment? (written.explained mark reason) =
      (shortestList [] (written.list.chars ++ reasonTail mark reason.toList written.trail)).map
        fun read => ⟨written.scope, splitNames [] read⟩ := by
  have ending : written.ending = written.trail.chars ++ closingMark := by
    rw [Written.ending, if_pos closed]
  have kept := trimEnd_append_closingMark (mark.chars ++ (reason.toList ++ written.trail.chars))
  rw [Written.explained, Written.textWith, ofComment?_written, ending]
  simp only [List.append_assoc] at kept ⊢
  rw [kept, reasonTail]

theorem followsName_reasonTail (mark : ReasonMark) (reason : List Char) (trail : Blanks) :
    FollowsName (reasonTail mark reason trail) := by
  cases mark <;> exact .divided (by decide) (by decide)

/-- A reason follows a list of rules if and only if it stands on one line. -/
theorem leadsToReason_reasonTail (mark : ReasonMark) (reason : List Char) (trail : Blanks) :
    leadsToReason (reasonTail mark reason trail) = isOneLine reason := by
  have judged := isReason_append_closingMark (' ' :: (reason ++ trail.chars))
  rw [isOneLine_between, List.cons_append, List.append_assoc] at judged
  cases mark with
  | colon => exact judged
  | hyphens =>
      rw [← judged, ← Bool.true_and (isReason _)]
      rfl

/-- A directive with a reason on one line is read as if the reason were not there. -/
theorem ofComment?_explained {written : Written} (closed : written.closed = true)
    (mark : ReasonMark) {reason : String} (oneLine : isOneLine reason.toList = true) :
    ofComment? (written.explained mark reason) = some ⟨written.scope, written.list.names⟩ := by
  have ends : (isEnd (reasonTail mark reason.toList written.trail) ||
      leadsToReason (reasonTail mark reason.toList written.trail)) = true := by
    rw [leadsToReason_reasonTail, oneLine, Bool.or_true]
  rw [ofComment?_reasonTail closed,
    shortestList_of_ends written.list (followsName_reasonTail _ _ _) ends, Option.map_some,
    splitNames_chars]

/-! ## Reasons on several lines -/

theorem isEnd_reasonTail (mark : ReasonMark) (reason : List Char) (trail : Blanks) :
    isEnd (reasonTail mark reason trail) = false := by
  cases mark <;> rfl

/-- In front of a reason on several lines, a list of rules does not end. -/
theorem endsList_reasonTail (list : NameList) (mark : ReasonMark) {reason : List Char}
    (broken : isOneLine reason = false) (trail : Blanks) :
    endsList (list.chars.reverse ++ []) (reasonTail mark reason trail) = false := by
  rw [endsList_list, isEnd_reasonTail, leadsToReason_reasonTail, broken, Bool.or_false]

/-- A list that is read begins with what was read of it before. -/
theorem exists_append_of_shortestList {read chars result : List Char}
    (found : shortestList read chars = some result) :
    ∃ part, result = read.reverse ++ part ∧ part <+: chars := by
  induction chars generalizing read with
  | nil =>
      rw [shortestList.eq_def] at found
      split at found
      · exact ⟨[], by rw [List.append_nil, Option.some.inj found], List.nil_prefix⟩
      · contradiction
  | cons c chars ih =>
      rw [shortestList.eq_def] at found
      split at found
      · exact ⟨[], by rw [List.append_nil, Option.some.inj found], List.nil_prefix⟩
      · simp only at found
        split at found
        · rcases ih found with ⟨part, rfl, front⟩
          refine ⟨c :: part, ?_, List.prefix_cons_iff.mpr (Or.inr ⟨part, rfl, front⟩)⟩
          rw [List.reverse_cons, List.append_assoc, List.singleton_append]
        · contradiction

/-- Behind a colon, a reason on several lines leaves no directive. -/
theorem shortestList_colon (list : NameList) {reason : List Char}
    (broken : isOneLine reason = false) (trail : Blanks) :
    shortestList [] (list.chars ++ reasonTail .colon reason trail) = none := by
  have unended := endsList_reasonTail list .colon broken trail
  have unlisted : isListChar ':' = false := by decide
  rw [shortestList_list list (followsName_reasonTail _ _ _), shortestList.eq_def, unended,
    if_neg Bool.false_ne_true]
  simp only [reasonTail, ReasonMark.chars, List.cons_append, unlisted, Bool.false_eq_true,
    if_false]

/-- Behind two hyphens, a reason on several lines makes the hyphens part of the list. -/
theorem shortestList_hyphens (list : NameList) {reason : List Char}
    (broken : isOneLine reason = false) (trail : Blanks) :
    shortestList [] (list.chars ++ reasonTail .hyphens reason trail) =
      shortestList ('-' :: '-' :: ' ' :: list.chars.reverse)
      (' ' :: (reason ++ (trail.chars ++ closingMark))) := by
  have unended := endsList_reasonTail list .hyphens broken trail
  rw [shortestList_list list (followsName_reasonTail _ _ _)]
  rw [List.append_nil] at unended ⊢
  -- the list goes on over the space and both hyphens
  exact (shortestList_cons unended (by decide)).trans
    ((shortestList_cons rfl (by decide)).trans (shortestList_cons rfl (by decide)))

theorem isSeparator_of_head?_space {rest : List Char} :
    ∀ c ∈ (' ' :: rest).head?, isSeparator c = true := by
  intro c mem
  obtain rfl := Option.some.inj mem
  decide

theorem splitNames_hyphens {part : List Char} (divided : ∀ c ∈ part.head?, isSeparator c = true) :
    splitNames [] (' ' :: '-' :: '-' :: part) = "--" :: splitNames [] part :=
  splitNames_of_divided (by decide) divided

/-- With a reason on several lines, a comment is no directive, or one that
names the two hyphens as well. -/
theorem ofComment?_broken {written : Written} (closed : written.closed = true) (mark : ReasonMark)
    {reason : String} (broken : isOneLine reason.toList = false) :
    ofComment? (written.explained mark reason) = none ∨
      ∃ more, ofComment? (written.explained mark reason) =
        some ⟨written.scope, written.list.names ++ "--" :: more⟩ := by
  rw [ofComment?_reasonTail closed]
  cases mark with
  | colon =>
      apply Or.inl
      rw [shortestList_colon written.list broken, Option.map_none]
  | hyphens =>
      rw [shortestList_hyphens written.list broken]
      cases found : shortestList ('-' :: '-' :: ' ' :: written.list.chars.reverse)
          (' ' :: (reason.toList ++ (written.trail.chars ++ closingMark))) with
      | none => exact Or.inl rfl
      | some read =>
          rcases exists_append_of_shortestList found with ⟨part, rfl, front⟩
          have divided : ∀ c ∈ part.head?, isSeparator c = true := by
            rcases List.prefix_cons_iff.mp front with rfl | ⟨rest, rfl, _⟩
            · simp
            · exact isSeparator_of_head?_space
          apply Or.inr
          refine ⟨splitNames [] part, ?_⟩
          have whole : ('-' :: '-' :: ' ' :: written.list.chars.reverse).reverse ++ part =
              written.list.chars ++ ' ' :: '-' :: '-' :: part := by simp
          rw [Option.map_some, whole, splitNames_list written.list isSeparator_of_head?_space,
            splitNames_hyphens divided]

/-- No list of names holds the two hyphens. -/
theorem NameList.hyphens_not_mem_names (list : NameList) : "--" ∉ list.names := by
  have plain : ∀ name : ListedName, "--" ≠ name.text := by
    intro name same
    apply name.notHyphens
    rw [ListedName.text] at same
    rw [← String.toList_ofList (l := name.chars), ← same]
    rfl
  induction list with
  | one name => simp [names, plain]
  | more name separator rest ih => simp [names, plain, ih]

theorem NameList.exists_mem_names (list : NameList) : ∃ rule, rule ∈ list.names := by
  cases list <;> exact ⟨_, List.mem_cons_self⟩

/-- Every scope reaches some line. -/
theorem Scope.exists_reaches (scope : Scope) (comment : Token) :
    ∃ line, scope.reaches comment line = true := by
  cases scope with
  | file => exact ⟨0, rfl⟩
  | nextLine => exact ⟨_, beq_self_eq_true _⟩
  | line => exact ⟨_, beq_self_eq_true _⟩

/-- A scope reaches the same lines from comments that start and end on the same lines. -/
theorem Scope.reaches_congr {scope : Scope} {comment other : Token}
    (start : scope = .line → other.loc.start.line = comment.loc.start.line)
    (stop : scope = .nextLine → other.loc.stop.line = comment.loc.stop.line) (line : Nat) :
    scope.reaches other line = scope.reaches comment line := by
  cases scope with
  | file => rfl
  | nextLine => rw [reaches, reaches, stop rfl]
  | line => rw [reaches, reaches, start rfl]

end Directive

namespace Suppressions

open Directive

/-- An issue of a rule on a line. -/
def issueAt (rule : String) (line : Nat) : Issue :=
  ⟨rule, "", ⟨⟨line, 1, 0⟩, ⟨line, 1, 0⟩⟩, .error, none⟩

theorem suppresses_comment_of_none {comment : Token} (unread : ofComment? comment.chars = none)
    (issue : Issue) : (ofForest [.comment comment]).suppresses issue = false := by
  rw [ofForest_comment, suppresses_addComment, Token.silences, unread]
  rfl

/-- If a comment is no directive, a rule that another comment names is no longer suppressed. -/
theorem exists_suppresses_ne_of_none {plain other : Token} {scope : Scope} {list : NameList}
    (read : ofComment? plain.chars = some ⟨scope, list.names⟩)
    (unread : ofComment? other.chars = none) :
    ∃ issue, (ofForest [.comment other]).suppresses issue ≠
      (ofForest [.comment plain]).suppresses issue := by
  rcases list.exists_mem_names with ⟨rule, named⟩
  rcases scope.exists_reaches plain with ⟨line, reached⟩
  refine ⟨issueAt rule line, ?_⟩
  rw [suppresses_comment_of_none unread, suppresses_comment read]
  simp [issueAt, names, named, reached]

/-- If a comment names the two hyphens, they are suppressed as if they were a rule. -/
theorem exists_suppresses_ne_of_hyphens {plain other : Token} {scope : Scope} {list : NameList}
    {more : List String} (read : ofComment? plain.chars = some ⟨scope, list.names⟩)
    (otherRead : ofComment? other.chars = some ⟨scope, list.names ++ "--" :: more⟩)
    (limited : "all" ∉ list.names) :
    ∃ issue, (ofForest [.comment other]).suppresses issue ≠
      (ofForest [.comment plain]).suppresses issue := by
  rcases scope.exists_reaches other with ⟨line, reached⟩
  refine ⟨issueAt "--" line, ?_⟩
  rw [suppresses_comment otherRead, suppresses_comment read]
  simp [issueAt, names, limited, list.hyphens_not_mem_names, reached]

/-- A closed directive with a reason suppresses what it suppresses without, wherever it stands, if
the reason has no line break but at its ends. Only then: with any other reason some rule that is
named is no longer suppressed, or one that is not named is, unless all rules are. -/
theorem reason_ignored {written : Written} (closed : written.closed = true) (mark : ReasonMark)
    (reason : String) {plain explained : Token} (text : plain.chars = written.text)
    (explainedText : explained.chars = written.explained mark reason)
    (start : written.scope = .line → explained.loc.start.line = plain.loc.start.line)
    (stop : written.scope = .nextLine → explained.loc.stop.line = plain.loc.stop.line) :
    (isOneLine reason.toList = true → ∀ issue, (ofForest [.comment explained]).suppresses issue =
        (ofForest [.comment plain]).suppresses issue) ∧
      ("all" ∉ written.list.names → isOneLine reason.toList = false →
        ∃ issue, (ofForest [.comment explained]).suppresses issue ≠
          (ofForest [.comment plain]).suppresses issue) := by
  have plainRead : ofComment? plain.chars = some ⟨written.scope, written.list.names⟩ := by
    rw [text]
    exact ofComment?_text written
  constructor
  · intro oneLine issue
    have read : ofComment? explained.chars = some ⟨written.scope, written.list.names⟩ := by
      rw [explainedText]
      exact ofComment?_explained closed mark oneLine
    rw [suppresses_comment read, suppresses_comment plainRead, Scope.reaches_congr start stop]
  · intro limited broken
    rcases ofComment?_broken closed mark broken with unread | ⟨more, read⟩
    · rw [← explainedText] at unread
      exact exists_suppresses_ne_of_none plainRead unread
    · rw [← explainedText] at read
      exact exists_suppresses_ne_of_hyphens plainRead read limited

/-- A reason with both marks in it and a line break behind it. -/
theorem reason_ignored_marks :
    ∃ written : Written,
      written.explained .hyphens "why: x -- y\n" = "<!-- taglint-disable a -- why: x -- y\n -->" ∧
      ∀ issue,
        (ofForest [.comment (.new (written.explained .hyphens "why: x -- y\n")
          ⟨⟨1, 1, 0⟩, ⟨2, 5, 42⟩⟩)]).suppresses issue =
          (ofForest [.comment (.new written.text ⟨⟨1, 1, 0⟩, ⟨1, 27, 26⟩⟩)]).suppresses issue := by
  let name : ListedName := ⟨['a'], by decide, List.forall_mem_singleton.mpr (by decide), by decide⟩
  let space : Blanks := ⟨[' '], List.forall_mem_singleton.mpr (by decide)⟩
  let written : Written := ⟨.line, space, space, by decide, .one name, space, true⟩
  refine ⟨written, by decide +kernel, ?_⟩
  have ignored := reason_ignored (rfl : written.closed = true) .hyphens "why: x -- y\n"
    (rfl : (Token.new written.text ⟨⟨1, 1, 0⟩, ⟨1, 27, 26⟩⟩).chars = written.text)
    (rfl : (Token.new (written.explained .hyphens "why: x -- y\n") ⟨⟨1, 1, 0⟩,
      ⟨2, 5, 42⟩⟩).chars = _)
    (fun _ => rfl) (fun other => Directive.Scope.noConfusion other)
  exact ignored.1 (by decide +kernel)

/-- A line break inside of a reason makes the directive void. -/
theorem reason_broken_not_ignored :
    (ofForest (parse "<!-- taglint-disable foo -->")).suppresses (issueAt "foo" 1) = true ∧
      (ofForest (parse "<!-- taglint-disable foo: a\nb -->")).suppresses (issueAt "foo" 1) =
        false := by
  decide +kernel

end Suppressions

end MarkupLint
