import MarkupLint.Issue
import MarkupLint.Json.Writer

/-!
# The wording of issues

The codes of the built-in rules have a sentence each, which quotes the data of the issue. For any
other code, the code and the data stand for themselves.
-/

namespace MarkupLint.Issue

/-- An item of data in words: a text as it is, anything else as JSON, and
nothing if it is missing. -/
def datumText (issue : Issue) (name : String) : String :=
  match issue.datum? name with
  | some (.string text) => text
  | some value => value.compact
  | none => ""

/-- The text of the token that an item of data describes. -/
def datumChars (issue : Issue) (name : String) : String :=
  match (issue.datum? name).bind (·.get? "chars") with
  | some (.string text) => text
  | _ => ""

/-- The code and the data of an issue. -/
def plainMessage (issue : Issue) : String :=
  match issue.data with
  | none => issue.code
  | some [] => issue.code
  | some data => issue.code ++ " " ++ (Json.object data).compact

/-- The sentence for an issue. -/
def message (issue : Issue) : String :=
  match issue.code with
  | "E006" => "Attribute \"" ++ issue.datumText "attribute" ++ "\" requires a value"
  | "E030" => "Closing tag does not match opening tag \"" ++ issue.datumChars "open" ++ "\""
  | "E038" => "Invalid language code \"" ++ issue.datumText "lang" ++ "\""
  | "E039" => "Language code \"" ++ issue.datumText "lang" ++ "\" has non-standard casing"
  | _ => issue.plainMessage

end MarkupLint.Issue
