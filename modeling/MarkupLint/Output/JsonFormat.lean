import MarkupLint.Json.Writer
import MarkupLint.Output.FileReport

/-!
# Reports as JSON

A run is written as one object: the files with their issues, and the totals.
-/

namespace MarkupLint

/-- How a report is written as JSON: on one line, or with a line for every field and item. -/
structure JsonFormat where
  pretty : Bool
deriving DecidableEq, Repr, Inhabited

namespace FileReport

/-- The record of a file. -/
def toJson (file : FileReport) : Json :=
  .object [("file", .string file.path), ("issues", .array (file.report.issues.map Issue.toJson))]

/-- The record of the totals over several files. -/
def summaryToJson (files : List FileReport) : Json :=
  let total := summarize files
  .object [("files_processed", .ofNat files.length), ("error_count", .ofNat total.errorCount),
    ("warning_count", .ofNat total.warningCount)]

/-- The record of a whole run. -/
def runToJson (files : List FileReport) : Json :=
  .object [("files", .array (files.map toJson)), ("summary", summaryToJson files)]

/-- The record of an issue together with the path of its file. -/
def issueToJson (path : String) (issue : Issue) : Json :=
  .object (("file", .string path) :: issue.toFields)

end FileReport

namespace JsonFormat

/-- Writes a value. -/
def write (format : JsonFormat) (value : Json) : String :=
  if format.pretty then value.pretty else value.compact

/-- The text of a single issue. -/
def formatIssue (format : JsonFormat) (path : String) (issue : Issue) : String :=
  format.write (FileReport.issueToJson path issue)

/-- The text of a whole run. -/
def format (format : JsonFormat) (files : List FileReport) : String :=
  format.write (FileReport.runToJson files)

end JsonFormat

end MarkupLint
