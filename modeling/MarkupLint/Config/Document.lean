import MarkupLint.Config.Basic
import MarkupLint.Json.Reader
import MarkupLint.Yaml.Reader

/-!
# Configuration documents

A document configures the built-in rules. It is an object of settings, or an object that holds one
under the name `rules`; where null stands for such an object, nothing is set. Documents are
written in JSON or in YAML, and the extension of a file tells in which.
-/

namespace MarkupLint

namespace Config

/-- The settings that a document holds. -/
def documentRules : Json → Except DocumentProblem Json.Fields
  | .null => .ok []
  | .object fields =>
      match NameMap.get? fields "rules" with
      | none => .ok fields
      | some (.object rules) => .ok rules
      | some .null => .ok []
      | some _ => .error .rulesNotMapping
  | _ => .error .notMapping

/-- A failure in front of any setting. -/
def refuse (failure : ConfigError) : Change :=
  ⟨builtin, [], some failure⟩

/-- The built-in rules, set by a document. -/
def ofDocument (document : Json) : Change :=
  match documentRules document with
  | .ok rules => builtin.apply rules
  | .error problem => refuse (.invalidDocument problem)

/-- The built-in rules, set by a document in JSON. -/
def ofJsonText (text : String) : Change :=
  match Json.parse? text with
  | some document => ofDocument document
  | none => refuse .malformedJson

/-- The built-in rules, set by a document in YAML. -/
def ofYamlText (text : String) : Change :=
  match Yaml.parse? text with
  | some document => ofDocument document
  | none => refuse .malformedYaml

/-- The built-in rules, set by a document in the format that the path of its file tells. -/
def ofFileText (path text : String) : Change :=
  let extension := (Path.extension? path).getD ""
  if extension = "yaml" ∨ extension = "yml" then ofYamlText text
  else if extension = "json" then ofJsonText text
  else refuse (.invalidDocument (.unknownFormat extension))

/-- The built-in rules, set by what reading a file came to. -/
def ofFile (path : String) : Except Path.ReadError String → Change
  | .ok text => ofFileText path text
  | .error cause => refuse (.unreadable cause)

end Config

end MarkupLint
