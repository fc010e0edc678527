import MarkupLint.Issue

/-!
# Settings of rules

A rule is set by a truth value, by a word for its severity, by a list of a
severity and options, or by an object with both. All of them come down to a
severity and options, or to the rule being off.
-/

namespace MarkupLint

/-- The setting of a rule that is on; the options have been accepted by the rule. -/
structure Setting where
  severity : Severity
  options : Json
deriving Repr, Inhabited

/-- A setting as it is written. -/
inductive RawSetting where
  | toggle (on : Bool)
  | level (word : String)
  | list (items : List Json)
  | full (severity : String) (options : Json)
deriving Repr, Inhabited

/-- What can be wrong with a written setting. -/
inductive SettingProblem where
  | unknownShape
  | unknownSeverity (word : String)
  | noSeverity
  | tooManyEntries
deriving DecidableEq, Repr, Inhabited

/-- The wording of a problem. -/
def SettingProblem.message : SettingProblem → String
  | .unknownShape => "data did not match any variant of untagged enum RawRuleSetting"
  | .unknownSeverity word =>
      "Unknown severity \"" ++ word ++ "\", expected \"error\", \"warning\" or \"off\""
  | .noSeverity => "Expected [severity, options]"
  | .tooManyEntries => "Expected at most two entries: [severity, options]"

namespace RawSetting

/-- The options of a rule that is set without any. -/
def defaultOptions : Json :=
  .bool true

/-- Reads a written setting. -/
def ofJson? : Json → Option RawSetting
  | .bool on => some (.toggle on)
  | .string word => some (.level word)
  | .array items => some (.list items)
  | .object fields => do
      let severity ← (← NameMap.get? fields "severity").toText?
      return .full severity ((NameMap.get? fields "options").getD defaultOptions)
  | _ => none

/-- Whether a word turns a rule off. -/
def isOff (word : String) : Bool :=
  word.toList.map Char.toLower == ['o', 'f', 'f']

/-- The severity that a word stands for; `off` stands for none. -/
def readLevel (word : String) : Except SettingProblem (Option Severity) :=
  if isOff word then .ok none
  else
    match Severity.ofWord? word with
    | some severity => .ok (some severity)
    | none => .error (.unknownSeverity word)

/-- The severity of a word together with options. -/
def levelWith (word : String) (options : Json) :
    Except SettingProblem (Option (Severity × Json)) := do
  return (← readLevel word).map fun severity => (severity, options)

/-- The severity and options of a list behind its first entry, the word for a severity. -/
def listWith (word : String) : List Json → Except SettingProblem (Option (Severity × Json))
  | [] => levelWith word defaultOptions
  | [options] => levelWith word options
  | _ :: _ :: _ => .error .tooManyEntries

/-- The severity and options that a written setting stands for, or nothing if
it turns the rule off. -/
def normalize : RawSetting → Except SettingProblem (Option (Severity × Json))
  | .toggle false => .ok none
  | .toggle true => .ok (some (.error, defaultOptions))
  | .level word => levelWith word defaultOptions
  | .list (.string word :: rest) => listWith word rest
  | .list (.bool false :: _) => .ok none
  | .list (.bool true :: rest) => listWith Severity.error.word rest
  | .list _ => .error .noSeverity
  | .full severity options => levelWith severity options

end RawSetting

end MarkupLint
