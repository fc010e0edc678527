import MarkupLint.Config.Setting
import MarkupLint.Path.FileSystem

/-!
# Failures of configuration

What can be wrong with a configuration, and how it is said.
-/

namespace MarkupLint

/-- What can be wrong with a configuration document as a whole. -/
inductive DocumentProblem where
  | notMapping
  | rulesNotMapping
  | unknownFormat (extension : String)
deriving DecidableEq, Repr, Inhabited

/-- The wording of a problem. -/
def DocumentProblem.message : DocumentProblem → String
  | .notMapping => "configuration must be a mapping"
  | .rulesNotMapping => "\"rules\" must be a mapping"
  | .unknownFormat extension => "Unknown config file format: " ++ extension

/-- Why a configuration was refused. -/
inductive ConfigError where
  | unreadable (cause : Path.ReadError)
  | malformedYaml
  | malformedJson
  | ruleNotFound (name : String)
  | duplicateRule (name : String)
  | invalidSetting (rule : String) (problem : SettingProblem)
  | invalidOptions (rule : String) (message : String)
  | invalidDocument (problem : DocumentProblem)
deriving DecidableEq, Repr, Inhabited

/-- The wording for a rule that was set wrongly. -/
def invalidRule (rule message : String) : String :=
  "Configuration for rule \"" ++ rule ++ "\" is invalid: " ++ message

/-- The wording of a failure. -/
def ConfigError.message : ConfigError → String
  | .unreadable cause => "IO error: " ++ cause.message
  | .malformedYaml => "YAML parse error: "
  | .malformedJson => "JSON parse error: "
  | .ruleNotFound name => "A rule named \"" ++ name ++ "\" does not exist"
  | .duplicateRule name => "A rule named \"" ++ name ++ "\" is already registered"
  | .invalidSetting rule problem => invalidRule rule problem.message
  | .invalidOptions rule message => invalidRule rule message
  | .invalidDocument problem => "Invalid configuration: " ++ problem.message

end MarkupLint
