import MarkupLint.Markup.Forest
import MarkupLint.NameMap

/-!
# Parsers and where they are found

A parser makes a forest of a text and may fail for reasons of its own. Parsers are kept under
names; the parser for markup is there under two of them.
-/

namespace MarkupLint

open Markup

/-- Why a parser failed. -/
inductive ParseError where
  | unreadable (message : String)
  | failed (parser message : String)
deriving DecidableEq, Repr, Inhabited

/-- The wording of a failure. -/
def ParseError.message : ParseError → String
  | .unreadable message => "IO error: " ++ message
  | .failed parser message => "Parser \"" ++ parser ++ "\" failed: " ++ message

/-- A parser. -/
abbrev Parser := String → Except ParseError (List Node)

/-- The parser for markup; it never fails. -/
def markupParser : Parser :=
  fun text => .ok (parse text)

/-- No parser bears a name. -/
structure ParserNotFound where
  name : String
deriving DecidableEq, Repr, Inhabited

namespace ParserNotFound

/-- The code of the failure. -/
def code : String :=
  "CORE-04"

/-- The wording of the failure. -/
def message (failure : ParserNotFound) : String :=
  "Cannot find parser module \"" ++ failure.name ++ "\""

end ParserNotFound

/-- Parsers under names. -/
structure ParserRegistry where
  parsers : NameMap Parser

namespace ParserRegistry

/-- No parsers. -/
def empty : ParserRegistry :=
  ⟨[]⟩

/-- Keeps a parser under a name, in place of any other of that name. -/
def register (registry : ParserRegistry) (name : String) (parser : Parser) : ParserRegistry :=
  ⟨NameMap.insert name parser registry.parsers⟩

/-- The parser for markup, as `default` and as `html`. -/
def standard : ParserRegistry :=
  (empty.register "default" markupParser).register "html" markupParser

/-- Whether a parser bears a name. -/
def contains (registry : ParserRegistry) (name : String) : Bool :=
  registry.parsers.contains name

/-- The parser of a name. -/
def resolve (registry : ParserRegistry) (name : String) : Except ParserNotFound Parser :=
  match registry.parsers.get? name with
  | some parser => .ok parser
  | none => .error ⟨name⟩

/-- The names, sorted. -/
def names (registry : ParserRegistry) : List String :=
  registry.parsers.names

end ParserRegistry

end MarkupLint
