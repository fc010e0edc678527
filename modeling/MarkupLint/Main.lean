import MarkupLint.Command.Run

/-!
# The program

Reads the arguments, runs the command on the files of the machine, and writes what it came to.
-/

namespace MarkupLint.Command

open MarkupLint.Path

/-- The reason why the machine did not give a file. -/
def readErrorOf : IO.Error → ReadError
  | .noFileOrDirectory .. => .notFound
  | .inappropriateType .. => .notDirectory
  | .invalidArgument .. => .nameTooLong
  | .permissionDenied .. => .other "Permission denied (os error 13)"
  | failure => .other (toString failure)

/-- Whether a path leads to a directory on the machine. -/
def isDirectoryOnDisk (path : String) : IO (Option Bool) := do
  try
    let full ← IO.FS.realPath path
    return some (← full.isDir)
  catch _ => return none

/-- The names in a directory of the machine. -/
def entriesOnDisk (path : String) : IO (List String) := do
  try
    let full ← IO.FS.realPath path
    return (← full.readDir).toList.map (·.fileName)
  catch _ => return []

/-- The text of a file of the machine. -/
def readTextOnDisk (path : String) : IO (Except ReadError String) := do
  if (← isDirectoryOnDisk path) == some true then return .error .isDirectory
  else
    try
      return decodeText (← IO.FS.readBinFile path)
    catch failure => return .error (readErrorOf failure)

/-- Access to the files of the machine. -/
def disk : FileSystem IO :=
  ⟨isDirectoryOnDisk, entriesOnDisk, readTextOnDisk⟩

/-- Whether codes for colours are to be written. -/
def writesCodes : IO Bool := do
  let force ← IO.getEnv "CLICOLOR_FORCE"
  let noColor ← IO.getEnv "NO_COLOR"
  let color ← IO.getEnv "CLICOLOR"
  let isTerminal ← (← IO.getStdout).isTty
  return Terminal.takesCodes force noColor color isTerminal

/-- What the arguments come to. -/
def complete (arguments : List String) : IO Completion := do
  match Options.ofArguments arguments with
  | .ok options => run disk options (← writesCodes)
  | .error .version => return ⟨0, versionText, ""⟩
  | .error .help => return ⟨0, helpText, ""⟩
  | .error .misuse => return ⟨2, "", usageText⟩

end MarkupLint.Command

/-- The program. -/
def main (arguments : List String) : IO UInt32 := do
  let completion ← MarkupLint.Command.complete arguments
  IO.print completion.output
  IO.eprint completion.errors
  return completion.exitCode.toUInt32
