import MarkupLint.Proofs.Directive.RuleList
import MarkupLint.Proofs.Linter.Suppression

/-!
# Directives as they are written

A directive is written with any white space where white space may stand, with any
separators between the names of the rules, and with or without the closing mark.
However it is written, it is read as the names in its list, and it switches off
these rules where its keyword says, and nothing else (`written_switchesOff`).
-/

namespace MarkupLint

open Markup

namespace Directive

/-- White space. -/
structure Blanks where
  chars : List Char
  blank : ∀ c ∈ chars, Text.isWhiteSpace c = true

/-- A directive as it is written: its scope, the white space behind the
opening mark of the comment and behind the keyword, its list of rules, the
white space behind the list, and whether the comment is closed. -/
structure Written where
  scope : Scope
  lead : Blanks
  gap : Blanks
  divided : gap.chars ≠ []
  list : NameList
  trail : Blanks
  closed : Bool

namespace Written

/-- What stands before the list of rules. -/
def front (written : Written) : List Char :=
  ['<', '!', '-', '-'] ++ (written.lead.chars ++ ("taglint-".toList ++
    (written.scope.keyword.toList ++ written.gap.chars)))

/-- What stands at the end of the comment. -/
def ending (written : Written) : List Char :=
  written.trail.chars ++ if written.closed then closingMark else []

/-- The text of the comment, with something inserted behind the list of rules. -/
def textWith (written : Written) (inserted : List Char) : String :=
  String.ofList (written.front ++ (written.list.chars ++ (inserted ++ written.ending)))

/-- The text of the comment. -/
def text (written : Written) : String :=
  written.textWith []

end Written

/-! ## Keywords -/

theorem stripWord?_append (word rest : List Char) :
    stripWord? word (word ++ rest) = some rest := by
  induction word with
  | nil => rfl
  | cons c word ih => rw [List.cons_append, stripWord?, if_pos rfl, ih]

theorem readScope?_keyword (scope : Scope) (rest : List Char) :
    readScope? (scope.keyword.toList ++ rest) scope =
      (ruleList? rest).map fun list => ⟨scope, splitNames [] list⟩ := by
  rw [readScope?, stripWord?_append, Option.bind_eq_bind, Option.bind_some, Option.map_eq_bind]
  rfl

/-- A keyword in front of white space is not taken for another one. -/
theorem readScope?_of_ne {scope other : Scope} (different : other ≠ scope) {blank : Char}
    {rest : List Char} (isBlank : Text.isWhiteSpace blank = true) :
    readScope? (scope.keyword.toList ++ blank :: rest) other = none := by
  have notHyphen : '-' ≠ blank := by
    rintro rfl
    exact absurd isBlank (by decide)
  have solid : Text.isWhiteSpace '-' = false := by decide
  cases scope <;> cases other <;>
    simp [readScope?, Scope.keyword, stripWord?, ruleList?, startsBlank, notHyphen,
      solid] at different ⊢

theorem findSome?_scope {read : Scope → Option Directive} {scope : Scope}
    (others : ∀ other, other ≠ scope → read other = none) :
    [Scope.file, Scope.nextLine, Scope.line].findSome? read = read scope := by
  cases scope with
  | file =>
      rw [List.findSome?_cons]
      cases read .file with
      | none => simp [others .nextLine (by decide), others .line (by decide)]
      | some directive => rfl
  | nextLine =>
      rw [List.findSome?_cons, others .file (by decide)]
      cases found : read .nextLine <;> simp [found, others .line (by decide)]
  | line => simp [others .file (by decide), others .nextLine (by decide)]

/-- Behind its keyword and white space, a directive is its list of rules. -/
theorem findSome?_readScope? (scope : Scope) {gap : List Char}
    (blank : ∀ c ∈ gap, Text.isWhiteSpace c = true) (divided : gap ≠ []) (list : NameList)
    (tail : List Char) :
    [Scope.file, Scope.nextLine, Scope.line].findSome?
        (readScope? (scope.keyword.toList ++ (gap ++ (list.chars ++ tail)))) =
      (shortestList [] (list.chars ++ tail)).map fun read => ⟨scope, splitNames [] read⟩ := by
  rcases List.exists_cons_of_ne_nil divided with ⟨c, rest, shape⟩
  have isBlank := blank c (by simp [shape])
  have skipped : (gap ++ (list.chars ++ tail)).dropWhile Text.isWhiteSpace =
      list.chars ++ tail := by
    rcases list.exists_cons with ⟨first, others, start, plain⟩
    rw [List.dropWhile_append_of_pos blank, start, List.cons_append]
    exact List.dropWhile_cons_of_neg (by simp [isWhiteSpace_of_isNameChar plain])
  have behind : ruleList? (gap ++ (list.chars ++ tail)) =
      shortestList [] (list.chars ++ tail) := by
    rw [ruleList?, skipped, shape, List.cons_append, startsBlank, if_pos isBlank]
  rw [findSome?_scope, readScope?_keyword, behind]
  intro other different
  rw [shape]
  exact readScope?_of_ne different isBlank

/-! ## The whole comment -/

/-- A directive is read from the list of rules and what follows it, without
white space at the end. -/
theorem ofComment?_written (written : Written) (tail : List Char) :
    ofComment? (String.ofList (written.front ++ (written.list.chars ++ tail))) =
      (shortestList [] (written.list.chars ++ Text.trimEnd tail)).map fun read =>
        ⟨written.scope, splitNames [] read⟩ := by
  have trimmed : Text.trimChars (written.front ++ (written.list.chars ++ tail)) =
      written.front ++ (written.list.chars ++ Text.trimEnd tail) := by
    rcases written.list.exists_concat with ⟨front, last, shape, plain⟩
    have solid := isWhiteSpace_of_isNameChar plain
    have kept := Text.trimEnd_append_of_solid (written.front ++ front) tail solid
    rw [shape, ← List.append_assoc, ← List.append_assoc, ← List.append_assoc, ← List.append_assoc,
      ← kept]
    exact Text.trimChars_cons (by decide) _
  have skipped : ∀ rest, (written.lead.chars ++ ("taglint-".toList ++ rest)).dropWhile
      Text.isWhiteSpace =
      "taglint-".toList ++ rest := by
    intro rest
    rw [List.dropWhile_append_of_pos written.lead.blank]
    exact List.dropWhile_cons_of_neg (by decide)
  rw [ofComment?, String.toList_ofList, trimmed, Written.front]
  simp only [List.append_assoc, stripWord?_append, skipped, Option.bind_eq_bind, Option.bind_some]
  exact findSome?_readScope? written.scope written.gap.blank written.divided written.list _

theorem followsName_blanks (blanks : Blanks) {rest : List Char} (follows : FollowsName rest) :
    FollowsName (blanks.chars ++ rest) := by
  rcases shape : blanks.chars with _ | ⟨c, chars⟩
  · exact follows
  · have blank := blanks.blank c (by simp [shape])
    apply FollowsName.divided
    · apply Bool.eq_false_iff.mpr
      intro plain
      rw [isWhiteSpace_of_isNameChar plain] at blank
      contradiction
    · rintro rfl
      exact absurd blank (by decide)

theorem trimEnd_append_closingMark (chars : List Char) :
    Text.trimEnd (chars ++ closingMark) = chars ++ closingMark := by
  have solid : Text.isWhiteSpace '>' = false := by decide
  have kept := Text.trimEnd_append_of_solid (chars ++ ['-', '-']) [] solid
  rwa [List.append_nil, List.append_assoc, Text.trimEnd_eq_rdropWhile [], List.rdropWhile_nil,
    List.append_nil] at kept

/-- Behind a list of rules without a reason, the comment ends. -/
theorem Written.ending_ends (written : Written) :
    FollowsName (Text.trimEnd written.ending) ∧ isEnd (Text.trimEnd written.ending) = true := by
  unfold ending
  split
  · rw [trimEnd_append_closingMark]
    constructor
    · exact followsName_blanks written.trail .closing
    · rw [isEnd, List.dropWhile_append_of_pos written.trail.blank]
      decide
  · rw [List.append_nil, Text.trimEnd_eq_rdropWhile,
      List.rdropWhile_eq_nil_iff.mpr written.trail.blank]
    exact ⟨.nothing, rfl⟩

/-- A directive is read as it is written. -/
theorem ofComment?_text (written : Written) :
    ofComment? written.text = some ⟨written.scope, written.list.names⟩ := by
  rcases written.ending_ends with ⟨follows, ends⟩
  rw [Written.text, Written.textWith, List.nil_append, ofComment?_written,
    shortestList_of_ends written.list follows (by rw [ends, Bool.true_or]), Option.map_some,
    splitNames_chars]

/-- A list names a rule, as a directive with its names does. -/
theorem names_eq_true_iff {scope : Scope} {list : NameList} {rule : String} :
    names ⟨scope, list.names⟩ rule = true ↔ list.Lists rule := by
  simp [names, NameList.Lists]

end Directive

namespace Suppressions

theorem ofForest_comment (comment : Token) :
    ofForest [.comment comment] = empty.addComment comment := by
  rw [ofForest, walk_eq_preorder]
  rfl

/-- One comment switches rules off for the whole document if its scope is the document. -/
theorem coversFile_comment {comment : Token} {directive : Directive}
    (read : Directive.ofComment? comment.chars = some directive) (rule : String) :
    (ofForest [.comment comment]).coversFile rule =
      (directive.scope == .file && directive.names rule) := by
  rcases directive with ⟨scope, rules⟩
  rw [ofForest_comment, addComment, read]
  cases scope <;> simp [coversFile, empty, Directive.names]

/-- One comment switches rules off on the lines that it reaches if its scope is a line. -/
theorem coversLine_comment {comment : Token} {directive : Directive}
    (read : Directive.ofComment? comment.chars = some directive) (rule : String) (line : Nat) :
    (ofForest [.comment comment]).coversLine rule line =
      (directive.scope != .file &&
        (directive.names rule && directive.scope.reaches comment line)) := by
  rcases directive with ⟨scope, rules⟩
  rw [ofForest_comment, addComment, read]
  cases scope with
  | file => rfl
  | nextLine | line =>
      simp only [coversLine, empty, List.nil_append, contains_map_line, Directive.names,
        Directive.Scope.reaches, Bool.and_or_distrib_right]
      rfl

theorem suppresses_comment {comment : Token} {directive : Directive}
    (read : Directive.ofComment? comment.chars = some directive) (issue : Issue) :
    (ofForest [.comment comment]).suppresses issue =
      (directive.names issue.rule &&
        directive.scope.reaches comment issue.position.start.line) := by
  rw [ofForest_comment, suppresses_addComment, Token.silences, read]
  rfl

/-- A directive as it is written switches off the rules in its list and no
other: in the whole document, on the line on which the comment starts, or on
the line behind the one on which it ends, as its scope says. -/
theorem written_switchesOff (written : Directive.Written) {comment : Token}
    (text : comment.chars = written.text) (counted : comment.loc.stop.line + 1 < lineCount) :
    (∀ rule, (ofForest [.comment comment]).coversFile rule = true ↔
        written.list.Lists rule ∧ written.scope = .file) ∧
      (∀ rule line, (ofForest [.comment comment]).coversLine rule line = true ↔
        written.list.Lists rule ∧
          (written.scope = .line ∧ comment.loc.start.line = line ∨
            written.scope = .nextLine ∧ comment.loc.stop.line + 1 = line)) ∧
      ∀ issue, (ofForest [.comment comment]).suppresses issue = true ↔
        written.list.Lists issue.rule ∧
          (written.scope = .file ∨
            written.scope = .line ∧ comment.loc.start.line = issue.position.start.line ∨
            written.scope = .nextLine ∧
            comment.loc.stop.line + 1 = issue.position.start.line) := by
  have read : Directive.ofComment? comment.chars = some ⟨written.scope, written.list.names⟩ := by
    rw [text]
    exact Directive.ofComment?_text written
  constructor
  · intro rule
    rw [coversFile_comment read, Bool.and_eq_true, beq_iff_eq, Directive.names_eq_true_iff]
    exact and_comm
  constructor
  · intro rule line
    rw [coversLine_comment read, Bool.and_eq_true, Bool.and_eq_true, bne_iff_ne,
      Directive.names_eq_true_iff, reaches_iff counted]
    constructor
    · rintro ⟨notFile, lists, file | reached⟩
      · contradiction
      · exact ⟨lists, reached⟩
    · rintro ⟨lists, reached⟩
      refine ⟨?_, lists, Or.inr reached⟩
      rcases reached with ⟨scope, _⟩ | ⟨scope, _⟩ <;> simp [scope]
  · intro issue
    rw [suppresses_comment read, Bool.and_eq_true, Directive.names_eq_true_iff,
      reaches_iff counted]

/-- Names that begin and end with hyphens, the last of them glued to the closing mark. -/
theorem written_switchesOff_glued :
    ∃ written : Directive.Written,
      written.text = "<!--taglint-disable-next-line\n--a, b---->" ∧
      written.list.names = ["--a", "b--"] ∧
      ∀ rule line,
        (ofForest [.comment (.new written.text ⟨⟨1, 1, 0⟩, ⟨2, 13, 41⟩⟩)]).coversLine
            rule line = true ↔
          written.list.Lists rule ∧ 3 = line := by
  let first : Directive.ListedName :=
    ⟨['-', '-', 'a'], by decide, List.all_eq_true.mp (by decide), by decide⟩
  let second : Directive.ListedName :=
    ⟨['b', '-', '-'], by decide, List.all_eq_true.mp (by decide), by decide⟩
  let separator : Directive.Separator := ⟨[',', ' '], by decide, by simp⟩
  let written : Directive.Written :=
    ⟨.nextLine, ⟨[], by simp⟩, ⟨['\n'], List.all_eq_true.mp (by decide)⟩, by decide,
      .more first separator (.one second), ⟨[], by simp⟩, true⟩
  refine ⟨written, by decide +kernel, by decide +kernel, ?_⟩
  have switched := written_switchesOff written
    (rfl : (Token.new written.text ⟨⟨1, 1, 0⟩, ⟨2, 13, 41⟩⟩).chars = written.text) (by decide)
  intro rule line
  rw [switched.2.1 rule line]
  simp [written, Token.new]

end Suppressions

end MarkupLint
