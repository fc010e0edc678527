/-!
# The arguments of the command

Arguments are read from left to right. An option is given by its long name behind
two hyphens or by its letter behind one, at most once; its value stands behind an
equals sign, right behind the letter, or in the next argument. Everything else is
a pattern of files, and so is everything behind two hyphens alone.
-/

namespace MarkupLint.Command

/-- How the report is written. -/
inductive Format where
  | text
  | json
deriving DecidableEq, Repr, Inhabited

/-- What a run is asked to do. -/
structure Options where
  patterns : List String
  config : Option String
  format : Format
  parser : String
  jobs : Nat
  noColor : Bool
  noInlineConfig : Bool
  listRules : Bool
deriving DecidableEq, Repr, Inhabited

/-- The options of a run without arguments. -/
def Options.standard : Options :=
  ⟨[], none, .text, "default", 0, false, false, false⟩

/-- Why arguments do not lead to a run. -/
inductive Stop where
  | misuse
  | version
  | help
deriving DecidableEq, Repr, Inhabited

/-- The options that can be given. -/
inductive Key where
  | config
  | format
  | parser
  | jobs
  | noColor
  | noInlineConfig
  | listRules
  | version
  | help
deriving DecidableEq, Repr, Inhabited

namespace Key

/-- The option of a long name. -/
def ofName? : String → Option Key
  | "config" => some .config
  | "format" => some .format
  | "parser" => some .parser
  | "jobs" => some .jobs
  | "no-color" => some .noColor
  | "no-inline-config" => some .noInlineConfig
  | "list-rules" => some .listRules
  | "version" => some .version
  | "help" => some .help
  | _ => none

/-- The option of a letter. -/
def ofLetter? : Char → Option Key
  | 'c' => some .config
  | 'f' => some .format
  | 'j' => some .jobs
  | 'V' => some .version
  | 'h' => some .help
  | _ => none

/-- Whether an option has a value. -/
def takesValue : Key → Bool
  | .config => true
  | .format => true
  | .parser => true
  | .jobs => true
  | _ => false

end Key

/-- The arguments read so far: what they ask for, which options were given,
and the one that waits for its value. -/
structure Reading where
  options : Options
  given : List Key
  waiting : Option Key
deriving Repr, Inhabited

/-- The value of digits, behind a plus sign or without one, if it is a number of 64 bits. -/
def readCount? (text : String) : Option Nat :=
  let digits :=
    match text.toList with
    | '+' :: rest => rest
    | chars => chars
  if digits.isEmpty || !digits.all Char.isDigit then none
  else
    let value := digits.foldl (fun value c => value * 10 + (c.toNat - '0'.toNat)) 0
    if value < 18446744073709551616 then some value else none

/-- The format of a word. -/
def Format.ofWord? : String → Option Format
  | "text" => some .text
  | "json" => some .json
  | _ => none

namespace Reading

/-- Nothing read yet. -/
def start : Reading :=
  ⟨.standard, [], none⟩

/-- Adds patterns. -/
def addPatterns (reading : Reading) (patterns : List String) : Reading :=
  { reading with
    options := { reading.options with patterns := reading.options.patterns ++ patterns } }

/-- Notes that an option was given; a second time is refused. -/
def note (reading : Reading) (key : Key) : Except Stop Reading :=
  if reading.given.contains key then .error .misuse
  else .ok { reading with given := key :: reading.given }

/-- Replaces the options. -/
def withOptions (reading : Reading) (options : Options) : Reading :=
  { reading with options := options }

/-- Sets an option without a value. -/
def setFlag (reading : Reading) (key : Key) : Except Stop Reading := do
  let noted ← reading.note key
  let options := noted.options
  match key with
  | .noColor => return noted.withOptions { options with noColor := true }
  | .noInlineConfig => return noted.withOptions { options with noInlineConfig := true }
  | .listRules => return noted.withOptions { options with listRules := true }
  | .version => .error .version
  | .help => .error .help
  | _ => .error .misuse

/-- Sets an option to a value. -/
def setValue (reading : Reading) (key : Key) (value : String) : Except Stop Reading := do
  let noted ← reading.note key
  let options := noted.options
  match key with
  | .config =>
      if value.isEmpty then .error .misuse
      else return noted.withOptions { options with config := some value }
  | .format =>
      match Format.ofWord? value with
      | some format => return noted.withOptions { options with format := format }
      | none => .error .misuse
  | .parser => return noted.withOptions { options with parser := value }
  | .jobs =>
      match readCount? value with
      | some jobs => return noted.withOptions { options with jobs := jobs }
      | none => .error .misuse
  | _ => .error .misuse

/-- Takes an argument that starts with two hyphens, without them. -/
def takeLong (reading : Reading) (chars : List Char) : Except Stop Reading :=
  let name := String.ofList (chars.takeWhile (· != '='))
  match Key.ofName? name, chars.dropWhile (· != '=') with
  | none, _ => .error .misuse
  | some key, [] =>
      if key.takesValue then .ok { reading with waiting := some key } else reading.setFlag key
  | some key, _ :: value =>
      if key.takesValue then reading.setValue key (String.ofList value) else .error .misuse

/-- Takes an argument that starts with one hyphen, without it. -/
def takeLetters (reading : Reading) : List Char → Except Stop Reading
  | [] => .ok reading
  | letter :: rest =>
      match Key.ofLetter? letter with
      | none => .error .misuse
      | some key =>
          if key.takesValue then
            match rest with
            | [] => .ok { reading with waiting := some key }
            | '=' :: value => reading.setValue key (String.ofList value)
            | value => reading.setValue key (String.ofList value)
          else do (← reading.setFlag key).takeLetters rest

/-- Whether an argument looks like an option. -/
def isOption (argument : String) : Bool :=
  argument.startsWith "-" && argument ≠ "-"

/-- Takes one argument. -/
def take (reading : Reading) (argument : String) : Except Stop Reading :=
  match reading.waiting with
  | some key =>
      if isOption argument then .error .misuse
      else { reading with waiting := none }.setValue key argument
  | none =>
      match argument.toList with
      | '-' :: '-' :: name => reading.takeLong name
      | '-' :: letter :: letters => reading.takeLetters (letter :: letters)
      | _ => .ok (reading.addPatterns [argument])

/-- Takes all arguments. -/
def takeAll (reading : Reading) : List String → Except Stop Reading
  | [] => .ok reading
  | argument :: arguments =>
      if argument = "--" ∧ reading.waiting.isNone then .ok (reading.addPatterns arguments)
      else do (← reading.take argument).takeAll arguments

end Reading

/-- Reads the arguments of the command. -/
def Options.ofArguments (arguments : List String) : Except Stop Options := do
  let reading ← Reading.start.takeAll arguments
  if reading.waiting.isSome then .error .misuse else return reading.options

end MarkupLint.Command
