import MarkupLint.Output.FileReport
import MarkupLint.Output.Message
import MarkupLint.Terminal.Style

/-!
# Reports as text

Every file with issues gets its path, a line for each issue and an empty line; at the end the
totals are told. Colours are used if the format asks for them and the terminal takes codes.
-/

namespace MarkupLint

open Terminal

/-- How a report is written as text. -/
structure TextFormat where
  colored : Bool
  showStats : Bool
deriving DecidableEq, Repr, Inhabited

namespace TextFormat

/-- The format that is used unless another is given. -/
def standard : TextFormat :=
  ⟨true, true⟩

/-- The format without colours. -/
def withoutColor (format : TextFormat) : TextFormat :=
  { format with colored := false }

/-- Sets a text in a style if the format is coloured and the terminal takes codes. -/
def paint (format : TextFormat) (codes : Bool) (style : Style) (text : String) : List Char :=
  Terminal.paint (format.colored && codes) style text.toList

/-- The style of a severity. -/
def severityStyle : Severity → Style
  | .error => .boldColored .red
  | .warning => .boldColored .yellow

/-- The line of an issue. -/
def issueChars (format : TextFormat) (codes : Bool) (path : String) (issue : Issue) : List Char :=
  let start := issue.position.start
  path.toList ++ ':' :: (toString start.line).toList ++ ':' :: (toString start.column).toList ++
    ':' :: ' ' :: format.paint codes (severityStyle issue.severity) issue.severity.word ++
    '[' :: format.paint codes (.colored .cyan) issue.rule ++ ']' :: ':' :: ' ' ::
    issue.message.toList ++ ' ' :: '(' :: issue.code.toList ++ [')']

/-- The part of a file: nothing if it has no issues. -/
def fileChars (format : TextFormat) (codes : Bool) (file : FileReport) : List Char :=
  if file.report.isClean then []
  else
    format.paint codes .underline file.path ++ '\n' ::
      file.report.issues.flatMap (fun issue =>
        format.issueChars codes file.path issue ++ ['\n']) ++
      ['\n']

/-- A number of things, with the plural of their name. -/
def counted (count : Nat) (name : String) : String :=
  toString count ++ " " ++ name ++ (if count = 1 then "" else "s")

/-- The count of a severity, unless it is zero. -/
def countChars (format : TextFormat) (codes : Bool) (color : Color) (name : String) (count : Nat) :
    List (List Char) :=
  if count = 0 then [] else [format.paint codes (.colored color) (counted count name)]

/-- The counts of errors and warnings, behind a colon if there are any. -/
def totalsChars (format : TextFormat) (codes : Bool) (total : Report) : List Char :=
  let counts :=
    format.countChars codes .red "error" total.errorCount ++
      format.countChars codes .yellow "warning" total.warningCount
  if counts.isEmpty then [] else ':' :: ' ' :: [',', ' '].intercalate counts

/-- The line with the totals, if the format shows them. -/
def statsChars (format : TextFormat) (codes : Bool) (files : List FileReport) : List Char :=
  if format.showStats then
    (counted files.length "file" ++ " processed").toList ++
      format.totalsChars codes (FileReport.summarize files) ++ ['\n']
  else []

/-- The text of a single issue. -/
def formatIssue (format : TextFormat) (codes : Bool) (path : String) (issue : Issue) : String :=
  String.ofList (format.issueChars codes path issue)

/-- The text of a whole run. -/
def format (format : TextFormat) (codes : Bool) (files : List FileReport) : String :=
  String.ofList (files.flatMap (format.fileChars codes) ++ format.statsChars codes files)

end TextFormat

end MarkupLint
