import MarkupLint.Issue

/-!
# Rules

A rule has a name, a say about its options, and a check that looks at one node. A check reports
findings in order and may then fail; a finding without a code is a failure of the rule as well,
and the first failure is the one that counts.
-/

namespace MarkupLint

open Markup

/-- What a check of one node comes to: the findings in order, and the reason
if it failed behind them. -/
structure Visit where
  findings : List Finding
  failure : Option String
deriving Repr, Inhabited

namespace Visit

/-- Nothing found. -/
def nothing : Visit :=
  ⟨[], none⟩

/-- One finding. -/
def found (finding : Finding) : Visit :=
  ⟨[finding], none⟩

end Visit

/-- A rule. `validate` accepts options, possibly in another form, or refuses them with a message.
The refusal of options names a rule too, `refusalName`, which need not be the one that refuses. -/
structure Rule where
  name : String
  validate : Json → Except String Json
  check : Node → Json → Visit
  refusalName : Json → String := fun _ => name

/-- Why a rule failed. -/
inductive RuleError where
  | malformedIssue
  | failed (message : String)
deriving DecidableEq, Repr, Inhabited

/-- The wording of a failure. -/
def RuleError.message : RuleError → String
  | .malformedIssue => "reported issue has an empty code"
  | .failed message => message

namespace Rule

/-- The findings of a rule at a node, or its failure. -/
def run (rule : Rule) (node : Node) (options : Json) : Except RuleError (List Finding) :=
  let visit := rule.check node options
  if visit.findings.all Finding.isWellFormed then
    match visit.failure with
    | none => .ok visit.findings
    | some message => .error (.failed message)
  else .error .malformedIssue

end Rule

end MarkupLint
