import MarkupLint.Directive
import MarkupLint.Proofs.Markup.Walk

/-!
# Which issues directives switch off

Directives are gathered into two tables while the forest is walked, and issues are looked up in
the tables afterwards. An issue is found there if and only if some comment of the forest switches
it off, so neither the tables nor the order of the walk matter (`suppresses_ofForest`).
-/

namespace MarkupLint

open Markup

namespace Directive

/-- Whether the directive names a rule, or all rules. -/
def names (directive : Directive) (rule : String) : Bool :=
  directive.rules.contains rule || directive.rules.contains "all"

/-- Whether a directive of the scope, in a comment, takes effect on a line. -/
def Scope.reaches (comment : Token) (line : Nat) : Scope → Bool
  | .file => true
  | .nextLine => Suppressions.nextLine comment.loc.stop.line == line
  | .line => comment.loc.start.line == line

end Directive

/-- Whether a comment switches an issue off. -/
def Markup.Token.silences (comment : Token) (issue : Issue) : Bool :=
  (Directive.ofComment? comment.chars).any fun directive =>
    directive.names issue.rule && directive.scope.reaches comment issue.position.start.line

/-- Whether a node switches an issue off: only comments do. -/
def Markup.Node.silences (issue : Issue) : Node → Bool
  | .comment token => token.silences issue
  | _ => false

namespace Suppressions

theorem nextLine_of_lt {line : Nat} (counted : line + 1 < lineCount) : nextLine line = line + 1 :=
  Nat.mod_eq_of_lt counted

/-- Where line numbers do not run out, a directive reaches every line, the one on which its
comment starts, or the one behind the end of its comment. -/
theorem reaches_iff {scope : Directive.Scope} {comment : Token} {line : Nat}
    (counted : comment.loc.stop.line + 1 < lineCount) :
    scope.reaches comment line = true ↔
      scope = .file ∨ scope = .line ∧ comment.loc.start.line = line ∨
        scope = .nextLine ∧ comment.loc.stop.line + 1 = line := by
  cases scope <;> simp [Directive.Scope.reaches, nextLine_of_lt counted]

theorem contains_map_line (rules : List String) (rule : String) (line line' : Nat) :
    (rules.map (·, line)).contains (rule, line') = (rules.contains rule && line == line') := by
  rw [Bool.eq_iff_iff, List.contains_iff_mem, List.mem_map, Bool.and_eq_true,
    List.contains_iff_mem, beq_iff_eq]
  constructor
  · rintro ⟨found, mem, same⟩
    cases same
    exact ⟨mem, rfl⟩
  · rintro ⟨mem, rfl⟩
    exact ⟨rule, mem, rfl⟩

/-- A comment adds what it switches off to what was switched off before. -/
theorem suppresses_addComment (suppressions : Suppressions) (comment : Token) (issue : Issue) :
    (suppressions.addComment comment).suppresses issue =
      (suppressions.suppresses issue || comment.silences issue) := by
  unfold addComment Token.silences
  cases Directive.ofComment? comment.chars with
  | none => simp
  | some directive =>
      rcases directive with ⟨scope, rules⟩
      cases scope with
      | file =>
          simp only [suppresses, coversFile, coversLine, List.contains_append, Option.any_some,
            Directive.names, Directive.Scope.reaches, Bool.and_true]
          ac_rfl
      | nextLine | line =>
          simp only [suppresses, coversFile, coversLine, List.contains_append, contains_map_line,
            Option.any_some, Directive.names, Directive.Scope.reaches, Bool.and_or_distrib_right]
          ac_rfl

theorem suppresses_addNode (suppressions : Suppressions) (node : Node) (issue : Issue) :
    (suppressions.addNode node).suppresses issue =
      (suppressions.suppresses issue || node.silences issue) := by
  cases node with
  | comment token => exact suppresses_addComment suppressions token issue
  | element | text | doctype => exact (Bool.or_false _).symm

theorem suppresses_foldl_addNode (nodes : List Node) (suppressions : Suppressions)
    (issue : Issue) :
    (nodes.foldl addNode suppressions).suppresses issue =
      (suppressions.suppresses issue || nodes.any (Node.silences issue)) := by
  induction nodes generalizing suppressions with
  | nil => exact (Bool.or_false _).symm
  | cons node nodes ih =>
      rw [List.foldl_cons, ih, suppresses_addNode, List.any_cons, Bool.or_assoc]

/-- An issue is switched off in a forest if some node of the forest does so. -/
theorem suppresses_ofForest (forest : List Node) (issue : Issue) :
    (ofForest forest).suppresses issue = (preorder forest).any (Node.silences issue) := by
  rw [ofForest, walk_eq_preorder, suppresses_foldl_addNode]
  rfl

end Suppressions

end MarkupLint
