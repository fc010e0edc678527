import MarkupLint.Command.Options
import MarkupLint.Config.Document
import MarkupLint.Linter.Basic
import MarkupLint.Output.JsonFormat
import MarkupLint.Output.TextFormat
import MarkupLint.Path.Expansion

/-!
# Running the command

A run loads the configuration, finds the files, reads and lints them all, and writes one report.
The exit code tells what was found; a run that fails has a code of its own.
-/

namespace MarkupLint.Command

open MarkupLint.Path

variable {m : Type → Type} [Monad m]

/-- Why a run failed. -/
inductive Failure where
  | config (path : Option String) (cause : ConfigError)
  | noPatterns
  | pattern (text : String) (cause : PatternError)
  | noFiles
  | parser (cause : ParserNotFound)
  | unreadable (path : String) (cause : ReadError)
  | lint (path : String) (cause : LintError)
deriving Repr, Inhabited

/-- The wording of a configuration that was refused, with what lies behind it. -/
def configMessages (cause : ConfigError) : List String :=
  match cause with
  | .unreadable inner => [cause.message, inner.message]
  | _ => [cause.message]

/-- The wording of a text that could not be linted, with what lies behind it. -/
def lintMessages (cause : LintError) : List String :=
  match cause with
  | .parse (.unreadable message) =>
      [cause.message, (ParseError.unreadable message).message, message]
  | .parse inner => [cause.message, inner.message]
  | .rule _ inner => [cause.message, inner.message]

/-- The wording of a failure, from the outside to what lies behind it. -/
def Failure.messages : Failure → List String
  | .config (some path) cause => ("Failed to load config " ++ path) :: configMessages cause
  | .config none cause => configMessages cause
  | .noPatterns => ["No files specified"]
  | .pattern text cause => ["Invalid pattern '" ++ text ++ "'", cause.message]
  | .noFiles => ["No files found to lint"]
  | .parser cause => [cause.message]
  | .unreadable path cause => ["Failed to read " ++ path, cause.message]
  | .lint path cause => ("Failed to lint " ++ path) :: lintMessages cause

/-- What a run comes to: its exit code and what it writes to the two streams. -/
structure Completion where
  exitCode : Nat
  output : String
  errors : String
deriving DecidableEq, Repr, Inhabited

/-- The name and the version of the program. -/
def versionText : String :=
  "taglint 0.1.0\n"

/-- How the program is called. -/
def usageText : String :=
  "Usage: taglint [OPTIONS] [FILES]...\n"

/-- The help for the program. -/
def helpText : String :=
  "A fast, configurable linter for HTML-like markup.\n\n" ++ usageText ++ "\n" ++
    "Arguments:\n" ++
    "  [FILES]...  Files or glob patterns to lint\n\n" ++
    "Options:\n" ++
    "  -c, --config <CONFIG>   Configuration file path (.json, .yaml, .yml)\n" ++
    "  -f, --format <FORMAT>   Output format: text or json\n" ++
    "      --parser <PARSER>   Parser name\n" ++
    "  -j, --jobs <JOBS>       Number of parallel jobs (0 = auto)\n" ++
    "      --no-color          Disable colored output\n" ++
    "      --no-inline-config  Ignore taglint-disable comments\n" ++
    "      --list-rules        List available rules and exit\n" ++
    "  -h, --help              Print help\n" ++
    "  -V, --version           Print version\n"

/-- The configuration of a run. -/
def loadConfig (files : FileSystem m) (options : Options) : ExceptT Failure m Config := do
  let change ←
    match options.config with
    | some path => do
        let read ← files.readText path
        pure (Config.ofFile path read)
    | none => pure (Config.builtin.enableAll .error)
  match change.result with
  | .ok config => return config
  | .error cause => throw (.config options.config cause)

/-- The line of a rule in the list of rules. -/
def ruleLine (config : Config) (codes : Bool) (name : String) : List Char :=
  let state :=
    match config.setting? name with
    | some setting => setting.severity.word
    | none => "off"
  ' ' :: ' ' :: Terminal.paint codes (.colored .cyan) (Terminal.pad 20 name.toList) ++
    ' ' :: state.toList ++ ['\n']

/-- The list of rules with their severities. -/
def ruleList (config : Config) (codes : Bool) : String :=
  String.ofList (Terminal.paint codes .strong "Available rules:".toList ++ '\n' ::
    config.ruleNames.flatMap (ruleLine config codes))

/-- The files that patterns match. -/
def findFiles (files : FileSystem m) (patterns : List String) :
    ExceptT Failure m (List String) := do
  let found ← patterns.mapM fun text =>
    match Pattern.ofText text with
    | .error cause => throw (Failure.pattern text cause)
    | .ok pattern => liftM (expandFiles files pattern)
  return found.flatten

/-- The linter of a run. -/
def linterOf (options : Options) (config : Config) : Except Failure Linter :=
  match Linter.ofOptions ⟨some (.named options.parser), !options.noInlineConfig, options.jobs⟩
    .standard with
  | .ok linter => .ok { linter with config := config }
  | .error cause => .error (.parser cause)

/-- The text of a file. -/
def readFile (files : FileSystem m) (path : String) : ExceptT Failure m String := do
  match ← files.readText path with
  | .ok text => return text
  | .error cause => throw (.unreadable path cause)

/-- The report of a file. -/
def reportFile (path : String) : Except LintError (List Issue) → Except Failure FileReport
  | .ok issues => .ok (.ofIssues path issues)
  | .error cause => .error (.lint path cause)

/-- The text of a report. -/
def writeReport (options : Options) (codes : Bool) (reports : List FileReport) : String :=
  match options.format with
  | .text => TextFormat.standard.format codes reports
  | .json => (JsonFormat.mk true).format reports

/-- Lints the files that were found. -/
def lintFiles (files : FileSystem m) (options : Options) (codes : Bool) (config : Config)
    (paths : List String) : ExceptT Failure m Completion := do
  let linter ← linterOf options config
  let texts ← paths.mapM (readFile files)
  let reports ← (paths.zip (linter.lintMany texts)).mapM fun (path, result) =>
    liftM (reportFile path result)
  return ⟨(FileReport.summarize reports).exitCode, writeReport options codes reports ++ "\n", ""⟩

/-- A run, which may fail. -/
def attempt (files : FileSystem m) (options : Options) (codes : Bool) :
    ExceptT Failure m Completion := do
  let config ← loadConfig files options
  if options.listRules then return ⟨0, ruleList config codes, ""⟩
  else if options.patterns.isEmpty then throw .noPatterns
  else
    let paths ← findFiles files options.patterns
    if paths.isEmpty then throw .noFiles
    else lintFiles files options codes config paths

/-- The completion of a run that failed. -/
def Failure.completion (failure : Failure) (codes : Bool) : Completion :=
  let word := Terminal.paint codes (.boldColored .red) "error".toList
  ⟨3, "",
    String.ofList (word ++ ':' :: ' ' :: (": ".intercalate failure.messages).toList ++ ['\n'])⟩

/-- Runs the command; `codes` tells whether the terminal takes codes for colours. -/
def run (files : FileSystem m) (options : Options) (codes : Bool) : m Completion := do
  let codes := codes && !options.noColor
  match ← (attempt files options codes).run with
  | .ok completion => return completion
  | .error failure => return failure.completion codes

end MarkupLint.Command
