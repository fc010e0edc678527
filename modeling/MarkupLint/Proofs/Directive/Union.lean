import MarkupLint.Proofs.Linter.Engine
import MarkupLint.Proofs.Linter.Suppression
import MarkupLint.Proofs.Markup.RawContent
import MarkupLint.Proofs.Markup.ShiftedForest

/-!
# Directives of a forest act together

What a forest switches off is what its comments switch off, taken together. It
does not matter where a comment stands, how deep, in which order, or how
often: only which comments there are (`suppression_is_union`).
-/

namespace MarkupLint

open Markup

namespace Markup

/-- A comment stands in a forest, at whatever depth. -/
inductive HasComment (comment : Token) : List Node → Prop where
  | here {rest : List Node} : HasComment comment (.comment comment :: rest)
  | inside {tag : Tag} {children rest : List Node} (nested : HasComment comment children) :
      HasComment comment (.element tag children :: rest)
  | later {first : Node} {rest : List Node} (following : HasComment comment rest) :
      HasComment comment (first :: rest)

theorem HasComment.of_children {comment : Token} {first : Node}
    (nested : HasComment comment first.children) (rest : List Node) :
    HasComment comment (first :: rest) := by
  cases first with
  | element tag children => exact .inside nested
  | text | comment | doctype => cases nested

/-- The comments that stand in a forest are those that a walk comes by. -/
theorem hasComment_iff {comment : Token} {forest : List Node} :
    HasComment comment forest ↔ .comment comment ∈ preorder forest := by
  constructor
  · intro has
    induction has with
    | here => exact mem_preorder_cons_iff.mpr (Or.inl rfl)
    | inside _ ih => exact mem_preorder_cons_iff.mpr (Or.inr (Or.inl ih))
    | later _ ih => exact mem_preorder_cons_iff.mpr (Or.inr (Or.inr ih))
  · induction forest using forest_induction with
    | nil => exact fun mem => absurd mem not_mem_preorder_nil
    | cons first rest ihInside ihLater =>
        intro mem
        rcases mem_preorder_cons_iff.mp mem with rfl | nested | following
        · exact .here
        · exact .of_children (ihInside nested) rest
        · exact .later (ihLater following)

end Markup

/-- A comment switches an issue off: it is a directive that names the rule of
the issue, or all rules, and it takes effect in the whole document, on the
line on which it starts, or on the line behind the one on which it ends. -/
def Markup.Token.SwitchesOff (comment : Token) (issue : Issue) : Prop :=
  ∃ directive, Directive.ofComment? comment.chars = some directive ∧
    (issue.rule ∈ directive.rules ∨ "all" ∈ directive.rules) ∧
    (directive.scope = .file ∨
      directive.scope = .line ∧ comment.loc.start.line = issue.position.start.line ∨
      directive.scope = .nextLine ∧ comment.loc.stop.line + 1 = issue.position.start.line)

namespace Suppressions

theorem silences_iff_switchesOff {comment : Token}
    (counted : comment.loc.stop.line + 1 < lineCount) (issue : Issue) :
    comment.silences issue = true ↔ comment.SwitchesOff issue := by
  rw [Token.silences, Option.any_eq_true]
  constructor
  · rintro ⟨directive, read, silences⟩
    rw [Bool.and_eq_true, reaches_iff counted, Directive.names, Bool.or_eq_true,
      List.contains_iff_mem, List.contains_iff_mem] at silences
    exact ⟨directive, read, silences⟩
  · rintro ⟨directive, read, silences⟩
    refine ⟨directive, read, ?_⟩
    rw [Bool.and_eq_true, reaches_iff counted, Directive.names, Bool.or_eq_true,
      List.contains_iff_mem, List.contains_iff_mem]
    exact silences

/-- A forest switches an issue off if and only if some comment in it does. -/
theorem suppresses_iff_exists_silences {forest : List Node} {issue : Issue} :
    (ofForest forest).suppresses issue = true ↔
      ∃ comment, HasComment comment forest ∧ comment.silences issue = true := by
  rw [suppresses_ofForest, List.any_eq_true]
  constructor
  · rintro ⟨node, mem, silences⟩
    cases node with
    | comment comment => exact ⟨comment, hasComment_iff.mpr mem, silences⟩
    | element | text | doctype => contradiction
  · rintro ⟨comment, has, silences⟩
    exact ⟨.comment comment, hasComment_iff.mp has, silences⟩

/-- Forests with the same comments switch the same issues off. -/
theorem suppresses_congr {forest other : List Node}
    (same : ∀ comment, HasComment comment forest ↔ HasComment comment other) (issue : Issue) :
    (ofForest forest).suppresses issue = (ofForest other).suppresses issue := by
  rw [Bool.eq_iff_iff, suppresses_iff_exists_silences, suppresses_iff_exists_silences]
  exact exists_congr fun comment => and_congr_left fun _ => same comment

theorem suppresses_append (forest other : List Node) (issue : Issue) :
    (ofForest (forest ++ other)).suppresses issue =
      ((ofForest forest).suppresses issue || (ofForest other).suppresses issue) := by
  rw [suppresses_ofForest, preorder_append, List.any_append, suppresses_ofForest,
    suppresses_ofForest]

/-- A forest switches off what some comment in it does, at whatever depth. So forests with the
same comments switch off the same, two forests one behind the other what either of them does, and
where no directive stands nothing is switched off, so that dropping issues can be skipped. -/
theorem suppression_is_union {forest : List Node}
    (counted : ∀ comment, HasComment comment forest → comment.loc.stop.line + 1 < lineCount) :
    (∀ issue, (ofForest forest).suppresses issue = true ↔
        ∃ comment, HasComment comment forest ∧ comment.SwitchesOff issue) ∧
      (∀ other, (∀ comment, HasComment comment forest ↔ HasComment comment other) →
        ∀ issue, (ofForest forest).suppresses issue = (ofForest other).suppresses issue) ∧
      (∀ other issue, (ofForest (forest ++ other)).suppresses issue =
        ((ofForest forest).suppresses issue || (ofForest other).suppresses issue)) ∧
      ((ofForest forest).isEmpty = true → ∀ issue, (ofForest forest).suppresses issue = false) ∧
      ∀ issues, Linter.honour (ofForest forest) issues =
        issues.filter fun issue => !(ofForest forest).suppresses issue := by
  refine ⟨?_, fun other => suppresses_congr, suppresses_append forest,
    Linter.suppresses_of_isEmpty, Linter.honour_eq_filter _⟩
  intro issue
  rw [suppresses_iff_exists_silences]
  apply exists_congr
  intro comment
  exact and_congr_right fun has => silences_iff_switchesOff (counted comment has) issue

/-- Of two directives, the one inside of an element reaches the line behind it. -/
theorem suppression_is_union_nested :
    ∃ (tag : Tag) (inner outer : Token) (issue : Issue),
      inner.chars = "<!-- taglint-disable-next-line foo -->" ∧
      outer.chars = "<!-- taglint-disable bar -->" ∧
      issue.rule = "foo" ∧
      (ofForest [.element tag [.comment inner], .comment outer]).suppresses issue = true ∧
      ∃ comment, HasComment comment [.element tag [.comment inner], .comment outer] ∧
        comment.SwitchesOff issue := by
  let point : Location := ⟨⟨1, 1, 0⟩, ⟨1, 1, 0⟩⟩
  let tag : Tag := .new "p" (.new "p" point)
  let inner : Token := .new "<!-- taglint-disable-next-line foo -->" point
  let outer : Token := .new "<!-- taglint-disable bar -->" point
  let issue : Issue := ⟨"foo", "", ⟨⟨2, 1, 0⟩, ⟨2, 1, 0⟩⟩, .error, none⟩
  have counted : ∀ comment, HasComment comment [.element tag [.comment inner], .comment outer] →
      comment.loc.stop.line + 1 < lineCount := by
    intro comment has
    cases has with
    | inside nested =>
        cases nested with
        | here => decide
        | later following => cases following
    | later following =>
        cases following with
        | here => decide
        | later following => cases following
  have suppressed :
      (ofForest [.element tag [.comment inner], .comment outer]).suppresses issue = true := by
    decide +kernel
  exact ⟨tag, inner, outer, issue, rfl, rfl, rfl, suppressed,
    ((suppression_is_union counted).1 issue).mp suppressed⟩

end Suppressions

end MarkupLint
