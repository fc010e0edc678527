import MarkupLint.Json.Field
import MarkupLint.Markup.Codec
import MarkupLint.Text.WhiteSpace

/-!
# Issues and reports

A rule reports findings: a code, a place and some data. With the name of the rule and the severity
that the configuration gives to it, a finding becomes an issue. A report is a list of issues with
its totals.

An issue is read from an object and a severity from its word. Their other forms are left out: an
issue, or its data, given as an array of its values in order, and a severity given as an object
whose one field has the word for its name and null for its value, are refused.
-/

namespace MarkupLint

open Markup

/-- How serious an issue is. -/
inductive Severity where
  | warning
  | error
deriving DecidableEq, Repr, Inhabited

namespace Severity

/-- The word for a severity. -/
def word : Severity → String
  | .warning => "warning"
  | .error => "error"

/-- Reads a severity from a word or its short form, in any case. -/
def ofWord? (text : String) : Option Severity :=
  match Text.lowercase text with
  | "warning" => some .warning
  | "warn" => some .warning
  | "error" => some .error
  | "err" => some .error
  | _ => none

/-- A severity as JSON. -/
def toJson (severity : Severity) : Json :=
  .string severity.word

/-- Reads a severity from its exact word. -/
def ofJson? : Json → Option Severity
  | .string "warning" => some .warning
  | .string "error" => some .error
  | _ => none

end Severity

/-- What a rule reports: a code, a place, and data if there is any. -/
structure Finding where
  code : String
  position : Location
  data : Option Json.Fields
deriving Repr, Inhabited

namespace Finding

/-- A finding without data. -/
def new (code : String) (position : Location) : Finding :=
  ⟨code, position, none⟩

/-- The finding with one more item of data. -/
def withData (finding : Finding) (name : String) (value : Json) : Finding :=
  { finding with data := some (NameMap.insert name value (finding.data.getD [])) }

/-- Whether the code says something. -/
def isWellFormed (finding : Finding) : Bool :=
  !Text.isBlankText finding.code

end Finding

/-- A finding of a rule, with the severity of that rule. -/
structure Issue where
  rule : String
  code : String
  position : Location
  severity : Severity
  data : Option Json.Fields
deriving Repr, Inhabited

namespace Issue

/-- The issue that a finding of a rule gives rise to. -/
def ofFinding (rule : String) (severity : Severity) (finding : Finding) : Issue :=
  ⟨rule, finding.code, finding.position, severity, finding.data⟩

/-- An item of data of the issue. -/
def datum? (issue : Issue) (name : String) : Option Json := do
  NameMap.get? (← issue.data) name

/-- Whether the issue is an error. -/
def isError (issue : Issue) : Bool :=
  issue.severity == .error

/-- Whether the issue is a warning. -/
def isWarning (issue : Issue) : Bool :=
  issue.severity == .warning

/-- The data of an issue as the last field of its record, if there is any. -/
def dataFields : Option Json.Fields → Json.Fields
  | some data => [("meta", .object [("data", .object data)])]
  | none => []

/-- The fields of the record of an issue. -/
def toFields (issue : Issue) : Json.Fields :=
  ("rule", .string issue.rule) :: ("code", .string issue.code) ::
    ("position", issue.position.toJson) :: ("severity", issue.severity.toJson) ::
      dataFields issue.data

/-- An issue as JSON. -/
def toJson (issue : Issue) : Json :=
  .object issue.toFields

/-- Reads the data of an issue. -/
def dataOfJson? (json : Json) : Option Json.Fields := do
  (← NameMap.get? (← json.toFields?) "data").toFields?

/-- Reads an issue. -/
def ofJson? (json : Json) : Option Issue := do
  let fields ← json.toFields?
  let rule ← (← fields.get? "rule").toText?
  let code ← (← fields.get? "code").toText?
  let position ← Location.ofJson? (← fields.get? "position")
  let severity ← Severity.ofJson? (← fields.get? "severity")
  let data ← Json.optional? dataOfJson? (fields.get? "meta")
  return ⟨rule, code, position, severity, data⟩

end Issue

/-- Issues with the number of errors and of warnings among them. The counts have no bound; those of
issues that are at hand stay far below the greatest word. -/
structure Report where
  issues : List Issue
  errorCount : Nat
  warningCount : Nat
deriving Repr, Inhabited

namespace Report

/-- The report without issues. -/
def empty : Report :=
  ⟨[], 0, 0⟩

/-- The report of a list of issues. -/
def ofIssues (issues : List Issue) : Report where
  issues := issues
  errorCount := issues.countP Issue.isError
  warningCount := issues.length - issues.countP Issue.isError

/-- Whether there is an error. -/
def hasErrors (report : Report) : Bool :=
  0 < report.errorCount

/-- Whether there is no issue. -/
def isClean (report : Report) : Bool :=
  report.issues.isEmpty

/-- The exit code of a run with this report: two for errors, one for warnings
only, zero for neither. -/
def exitCode (report : Report) : Nat :=
  if 0 < report.errorCount then 2 else if 0 < report.warningCount then 1 else 0

/-- The report of both lists of issues, one behind the other. -/
def merge (report other : Report) : Report where
  issues := report.issues ++ other.issues
  errorCount := report.errorCount + other.errorCount
  warningCount := report.warningCount + other.warningCount

/-- A report as JSON. -/
def toJson (report : Report) : Json :=
  .object [("issues", .array (report.issues.map Issue.toJson)),
    ("error_count", .ofNat report.errorCount), ("warning_count", .ofNat report.warningCount),
    ("has_errors", .bool report.hasErrors), ("is_clean", .bool report.isClean),
    ("exit_code", .ofNat report.exitCode)]

end Report

end MarkupLint
