import MarkupLint.Config.Basic
import MarkupLint.Directive
import MarkupLint.Linter.Parser

/-!
# The linter

A linter parses a text and shows every node, in document order, to every rule that is on, in the
order of registration. The first rule that fails ends the run. Issues that directives in the text
switch off are dropped, if the linter honours directives.
-/

namespace MarkupLint

open Markup

/-- Which parser to use: one found by its name, or one given as it is. -/
inductive ParserChoice where
  | named (name : String)
  | custom (parser : Parser)

/-- How to set up a linter. Without a choice, the parser is the one for markup; `jobs` is the
number of texts linted at once, zero for as many as fit, and never changes a result. -/
structure LinterOptions where
  parser : Option ParserChoice
  inlineConfig : Bool
  jobs : Nat

/-- The options that are used unless others are given. -/
def LinterOptions.standard : LinterOptions :=
  ⟨none, true, 0⟩

/-- A linter. -/
structure Linter where
  config : Config
  parser : Parser
  inlineConfig : Bool

/-- Why a text could not be linted. -/
inductive LintError where
  | parse (cause : ParseError)
  | rule (name : String) (cause : RuleError)
deriving DecidableEq, Repr, Inhabited

/-- The wording of a failure. -/
def LintError.message : LintError → String
  | .parse cause => "Parse error: " ++ cause.message
  | .rule name cause => "Rule \"" ++ name ++ "\" failed: " ++ cause.message

/-- A rule that failed at a node. -/
structure RuleFailure where
  rule : String
  position : Position
  cause : RuleError
deriving DecidableEq, Repr, Inhabited

namespace Linter

/-- A linter for markup without rules, which honours directives. -/
def standard : Linter :=
  ⟨.empty, markupParser, true⟩

/-- The parser that options choose, found in a registry if it is named. -/
def chooseParser (options : LinterOptions) (registry : ParserRegistry) :
    Except ParserNotFound Parser :=
  match options.parser with
  | none => .ok markupParser
  | some (.custom parser) => .ok parser
  | some (.named name) => registry.resolve name

/-- The linter that options describe, without rules. -/
def ofOptions (options : LinterOptions) (registry : ParserRegistry) :
    Except ParserNotFound Linter := do
  return ⟨.empty, ← chooseParser options registry, options.inlineConfig⟩

/-- What is logged when a linter is set up. -/
def setupLog (options : LinterOptions) (registry : ParserRegistry) : List Log.Entry :=
  match options.parser with
  | some (.named name) =>
      match registry.resolve name with
      | .ok _ => [⟨.debug, "using parser " ++ name⟩]
      | .error failure =>
          [⟨.warn, failure.message ++ " (available: " ++ ", ".intercalate registry.names ++ ")"⟩]
  | _ => []

/-- The issues of one rule at one node. -/
def visit (node : Node) (active : Rule × Setting) : Except RuleFailure (List Issue) :=
  match active.1.run node active.2.options with
  | .ok findings => .ok (findings.map (Issue.ofFinding active.1.name active.2.severity))
  | .error cause => .error ⟨active.1.name, node.loc.start, cause⟩

/-- The issues of all rules at one node. -/
def visitNode (active : List (Rule × Setting)) (node : Node) :
    Except RuleFailure (List Issue) := do
  return (← active.mapM (visit node)).flatten

/-- The issues of all rules at all nodes of a forest. -/
def visitForest (active : List (Rule × Setting)) (forest : List Node) :
    Except RuleFailure (List Issue) := do
  return (← (walk forest).mapM (visitNode active)).flatten

/-- Drops the issues that directives switch off. -/
def honour (suppressions : Suppressions) (issues : List Issue) : List Issue :=
  if suppressions.isEmpty then issues
  else issues.filter fun issue => !suppressions.suppresses issue

/-- Drops the issues that directives in a forest switch off, if the linter honours directives. -/
def keep (linter : Linter) (forest : List Node) (issues : List Issue) : List Issue :=
  if linter.inlineConfig then honour (.ofForest forest) issues else issues

/-- The issues of a text. -/
def lint (linter : Linter) (text : String) : Except LintError (List Issue) :=
  match linter.parser text with
  | .error cause => .error (.parse cause)
  | .ok forest =>
      match visitForest linter.config.activeRules forest with
      | .error failure => .error (.rule failure.rule failure.cause)
      | .ok issues => .ok (linter.keep forest issues)

/-- The report of a text. -/
def report (linter : Linter) (text : String) : Except LintError Report :=
  (linter.lint text).map .ofIssues

/-- The issues of several texts, each on its own. -/
def lintMany (linter : Linter) (texts : List String) : List (Except LintError (List Issue)) :=
  texts.map linter.lint

/-- A position in the wording of the log. -/
def describePosition (position : Position) : String :=
  "Position \x7b line: " ++ toString position.line ++ ", column: " ++ toString position.column
    ++ ", offset: " ++ toString position.offset ++ " \x7d"

/-- What is logged of directives that were honoured. -/
def honourLog (linter : Linter) (forest : List Node) (issues : List Issue) : List Log.Entry :=
  if linter.inlineConfig && !(Suppressions.ofForest forest).isEmpty then
    [⟨.debug, toString (issues.length - (linter.keep forest issues).length)
      ++ " issues suppressed by inline directives"⟩]
  else []

/-- What is logged when a text is linted. -/
def lintLog (linter : Linter) (text : String) : List Log.Entry :=
  match linter.parser text with
  | .error _ => []
  | .ok forest =>
      match visitForest linter.config.activeRules forest with
      | .error failure =>
          [⟨.error, "rule " ++ failure.rule ++ " failed at " ++ describePosition failure.position
            ++ ": " ++ failure.cause.message⟩]
      | .ok issues =>
          linter.honourLog forest issues ++
            [⟨.trace, "linted " ++ toString text.utf8ByteSize ++ " bytes with "
              ++ toString linter.config.activeRules.length ++ " active rules: "
              ++ toString (linter.keep forest issues).length ++ " issues"⟩]

end Linter

end MarkupLint
