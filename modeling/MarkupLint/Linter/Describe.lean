import MarkupLint.Json.Describe
import MarkupLint.Linter.Basic

/-!
# Descriptions of configurations and options

A description names every part of a value, for messages that are read while looking for a mistake.
-/

namespace MarkupLint

/-- A record with the descriptions of its fields. -/
def describeRecord (name : String) (fields : List (String × String)) : String :=
  name ++ " \x7b " ++ ", ".intercalate (fields.map fun field => field.1 ++ ": " ++ field.2) ++
    " \x7d"

/-- The description of a severity. -/
def Severity.describe : Severity → String
  | .warning => "Warning"
  | .error => "Error"

/-- The description of a setting. -/
def Setting.describe (setting : Setting) : String :=
  describeRecord "RuleSetting"
    [("severity", setting.severity.describe), ("options", setting.options.describe)]

/-- The description of a configuration: the names of its rules and the
settings of those that are on. -/
def Config.describe (config : Config) : String :=
  let rules := config.ruleNames.map Text.quoted
  let settings := config.settings.map fun entry => Text.quoted entry.1 ++ ": " ++ entry.2.describe
  describeRecord "Config"
    [("rules", "[" ++ ", ".intercalate rules ++ "]"),
      ("settings", "\x7b" ++ ", ".intercalate settings ++ "\x7d")]

/-- The description of the choice of a parser. -/
def ParserChoice.describe : ParserChoice → String
  | .named name => "Named(" ++ Text.quoted name ++ ")"
  | .custom _ => "Custom(..)"

/-- The description of the options of a linter. -/
def LinterOptions.describe (options : LinterOptions) : String :=
  let parser :=
    match options.parser with
    | none => "None"
    | some choice => "Some(" ++ choice.describe ++ ")"
  describeRecord "LinterOptions"
    [("parser", parser), ("inline_config", if options.inlineConfig then "true" else "false"),
      ("jobs", toString options.jobs)]

end MarkupLint
