import MarkupLint.Config.Error
import MarkupLint.Json.Writer
import MarkupLint.Log
import MarkupLint.Rule.Builtin

/-!
# Configurations

A configuration is a table of rules, in the order in which they were registered, and the settings
of those that are on. Setting a rule first turns it off, so a setting that is refused leaves the
rule off. Applying an object of settings goes through its names in order and stops at the first
that is refused; what was set before stays.
-/

namespace MarkupLint

/-- A table of rules with the settings of those that are on. The index finds
the place of a rule by its name. -/
structure Config where
  rules : List Rule
  index : NameMap Nat
  settings : NameMap Setting

/-- A configuration after something was tried on it, what was logged, and the
reason if it failed. -/
structure Change where
  config : Config
  log : List Log.Entry
  failure : Option ConfigError

namespace Change

/-- The configuration, unless something failed. -/
def result (change : Change) : Except ConfigError Config :=
  match change.failure with
  | none => .ok change.config
  | some failure => .error failure

/-- Where a failure ends everything, a change stands for its result. -/
instance : Coe Change (Except ConfigError Config) :=
  ⟨result⟩

end Change

namespace Config

/-- The configuration without rules. -/
def empty : Config :=
  ⟨[], [], []⟩

/-- The configuration with one more rule, at the end of the table and off. -/
def withRule (config : Config) (rule : Rule) : Config :=
  { config with
    rules := config.rules ++ [rule]
    index := NameMap.insert rule.name config.rules.length config.index }

/-- Adds a rule, unless its name is taken. -/
def register (config : Config) (rule : Rule) : Change :=
  if config.index.contains rule.name then ⟨config, [], some (.duplicateRule rule.name)⟩
  else ⟨config.withRule rule, [], none⟩

/-- Adds rules one after the other, unless a name is taken. -/
def registerAll (config : Config) (rules : List Rule) : Except ConfigError Config :=
  rules.foldlM (fun config rule => config.register rule) config

/-- The configuration of a list of rules, all of them off. -/
def ofRules (rules : List Rule) : Except ConfigError Config :=
  empty.registerAll rules

/-- The configuration of the built-in rules, all of them off. -/
def builtin : Config where
  rules := Rule.builtin
  index := NameMap.ofList (Rule.builtin.zipIdx.map fun entry => (entry.1.name, entry.2))
  settings := []

/-- The rule of a name. -/
def rule? (config : Config) (name : String) : Option Rule := do
  config.rules[← config.index.get? name]?

/-- The rule of a name, or the failure to find it. -/
def findRule (config : Config) (name : String) : Except ConfigError Rule :=
  match config.rule? name with
  | some rule => .ok rule
  | none => .error (.ruleNotFound name)

/-- The names of the rules, in the order of registration. -/
def ruleNames (config : Config) : List String :=
  config.rules.map (·.name)

/-- The setting of a rule that is on. -/
def setting? (config : Config) (name : String) : Option Setting :=
  config.settings.get? name

/-- Whether a rule is on. -/
def isActive (config : Config) (name : String) : Bool :=
  config.settings.contains name

/-- The rules that are on, with their settings, in the order of registration. -/
def activeRules (config : Config) : List (Rule × Setting) :=
  config.rules.filterMap fun rule => (config.setting? rule.name).map fun setting => (rule, setting)

/-- The setting that an entry of an object of settings gives to a rule, or nothing if it turns the
rule off. A missing entry and null turn it off. -/
def resolve (rule : Rule) (entry : Option Json) : Except ConfigError (Option Setting) :=
  match entry.getD .null with
  | .null => .ok none
  | written =>
      match RawSetting.ofJson? written with
      | none => .error (.invalidSetting rule.name .unknownShape)
      | some raw =>
          match raw.normalize with
          | .error problem => .error (.invalidSetting rule.name problem)
          | .ok none => .ok none
          | .ok (some (severity, options)) =>
              match rule.validate options with
              | .error message => .error (.invalidOptions (rule.refusalName options) message)
              | .ok accepted => .ok (some ⟨severity, accepted⟩)

/-- What is logged of a rule that was set. -/
def settingEntry (name : String) : Option Setting → Log.Entry
  | some setting =>
      ⟨.debug, "rule " ++ name ++ " active as " ++ setting.severity.word ++ " with options "
        ++ setting.options.compact⟩
  | none => ⟨.debug, "rule " ++ name ++ " turned off"⟩

/-- Sets a rule by its entry in an object of settings. -/
def configure (config : Config) (rule : Rule) (raw : Json) : Change :=
  if config.index.contains rule.name then
    let off := { config with settings := config.settings.erase rule.name }
    match resolve rule (raw.get? rule.name) with
    | .error failure => ⟨off, [], some failure⟩
    | .ok none => ⟨off, [settingEntry rule.name none], none⟩
    | .ok (some setting) =>
        ⟨{ off with settings := NameMap.insert rule.name setting off.settings },
          [settingEntry rule.name (some setting)], none⟩
  else ⟨config, [], some (.ruleNotFound rule.name)⟩

/-- Sets the rules of some names by their entries, up to the first failure. -/
def applyNames (config : Config) (raw : Json.Fields) : List String → Change
  | [] => ⟨config, [], none⟩
  | name :: names =>
      match config.findRule name with
      | .error failure => ⟨config, [], some failure⟩
      | .ok rule =>
          let first := config.configure rule (.object raw)
          match first.failure with
          | some _ => first
          | none =>
              let rest := first.config.applyNames raw names
              { rest with log := first.log ++ rest.log }

/-- Applies an object of settings. -/
def apply (config : Config) (raw : Json.Fields) : Change :=
  config.applyNames raw raw.names

/-- Turns every rule on, with one severity and default options. -/
def enableAll (config : Config) (severity : Severity) : Change :=
  config.apply (NameMap.ofList (config.ruleNames.map fun name => (name, severity.toJson)))

end Config

end MarkupLint
