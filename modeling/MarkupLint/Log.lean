/-!
# Log entries

What the library has to say about its own work is returned as a list of entries, oldest first.
-/

namespace MarkupLint.Log

/-- How much an entry matters. -/
inductive Level where
  | error
  | warn
  | debug
  | trace
deriving DecidableEq, Repr, Inhabited

/-- The word for a level. -/
def Level.word : Level → String
  | .error => "ERROR"
  | .warn => "WARN"
  | .debug => "DEBUG"
  | .trace => "TRACE"

/-- An entry of the log. -/
structure Entry where
  level : Level
  text : String
deriving DecidableEq, Repr, Inhabited

/-- The entry as a line. -/
def Entry.line (entry : Entry) : String :=
  entry.level.word ++ " " ++ entry.text

end MarkupLint.Log
