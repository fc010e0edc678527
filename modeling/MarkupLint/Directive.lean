import MarkupLint.Issue
import MarkupLint.Markup.Walk
import MarkupLint.Text.WordCharacter

/-!
# Directives in comments

A comment can switch rules off: for the whole document, for the line behind it or for the line it
starts on. It names the rules, separated by commas and spaces, and may go on with a reason, behind
a colon or between spaces and two hyphens:

```
<!-- taglint-disable-file first-rule, second-rule -->
<!-- taglint-disable-next-line first-rule: the reason -->
<!-- taglint-disable first-rule -- the reason -->
```

The list of rules is the shortest one behind which the comment can end or a
reason can follow. The name `all` stands for every rule.
-/

namespace MarkupLint

open Markup

namespace Directive

/-- Where a directive takes effect. -/
inductive Scope where
  | file
  | nextLine
  | line
deriving DecidableEq, Repr, Inhabited

/-- The word that stands for a scope. -/
def Scope.keyword : Scope → String
  | .file => "disable-file"
  | .nextLine => "disable-next-line"
  | .line => "disable"

/-- Takes a word off the front of a text. -/
def stripWord? : List Char → List Char → Option (List Char)
  | [], chars => some chars
  | _ :: _, [] => none
  | w :: word, c :: chars => if w = c then stripWord? word chars else none

/-- Whether a text starts with white space. -/
def startsBlank : List Char → Bool
  | c :: _ => Text.isWhiteSpace c
  | [] => false

/-- Whether a character can stand in a list of rules. -/
def isListChar (c : Char) : Bool :=
  Text.isWord c || c == '-' || c == ',' || c == ' '

/-- The mark that closes a comment. -/
def closingMark : List Char :=
  ['-', '-', '>']

/-- Whether nothing but white space and the closing mark is left. -/
def isEnd (chars : List Char) : Bool :=
  let rest := chars.dropWhile Text.isWhiteSpace
  rest.isEmpty || rest == closingMark

/-- Whether a text has no line break but in the white space at its ends. -/
def isOneLine (chars : List Char) : Bool :=
  !(Text.trimChars chars).contains '\n'

/-- Whether a text can be a reason and the end of the comment: one line, with
or without the closing mark. -/
def isReason (chars : List Char) : Bool :=
  isOneLine chars ||
    (closingMark.isSuffixOf chars && isOneLine (chars.take (chars.length - closingMark.length)))

/-- Whether a reason follows: behind a colon, or behind two hyphens with white
space on both sides. -/
def leadsToReason (chars : List Char) : Bool :=
  match chars.dropWhile Text.isWhiteSpace with
  | ':' :: reason => isReason reason
  | '-' :: '-' :: reason => startsBlank chars && startsBlank reason && isReason reason
  | _ => false

/-- Whether a list of rules, given last character first, can end in front of `chars`. It is not
empty and does not end in white space. -/
def endsList (read chars : List Char) : Bool :=
  match read with
  | last :: _ => !Text.isWhiteSpace last && (isEnd chars || leadsToReason chars)
  | [] => false

/-- The shortest list of rules at the front of `chars`; `read` holds what was
read of it, last character first. -/
def shortestList (read : List Char) (chars : List Char) : Option (List Char) :=
  if endsList read chars then some read.reverse
  else
    match chars with
    | c :: rest => if isListChar c then shortestList (c :: read) rest else none
    | [] => none

/-- The list of rules behind a keyword and the white space that divides them. -/
def ruleList? (chars : List Char) : Option (List Char) :=
  if startsBlank chars then shortestList [] (chars.dropWhile Text.isWhiteSpace) else none

/-- Whether a character divides the names in a list. -/
def isSeparator (c : Char) : Bool :=
  c == ',' || Text.isWhiteSpace c

/-- The names in a list; `name` is the one being read, last character first. -/
def splitNames (name : List Char) : List Char → List String
  | [] => if name.isEmpty then [] else [String.ofList name.reverse]
  | c :: rest =>
      if isSeparator c then
        if name.isEmpty then splitNames [] rest
        else String.ofList name.reverse :: splitNames [] rest
      else splitNames (c :: name) rest

end Directive

/-- A directive: where it takes effect and which rules it names. -/
structure Directive where
  scope : Directive.Scope
  rules : List String
deriving DecidableEq, Repr, Inhabited

namespace Directive

/-- Reads a directive of one scope, behind the name of the tool. -/
def readScope? (chars : List Char) (scope : Scope) : Option Directive := do
  let rest ← stripWord? scope.keyword.toList chars
  let list ← ruleList? rest
  return ⟨scope, splitNames [] list⟩

/-- Reads a directive from the text of a comment. -/
def ofComment? (text : String) : Option Directive := do
  let content ← stripWord? ['<', '!', '-', '-'] (Text.trimChars text.toList)
  let command ← stripWord? "taglint-".toList (content.dropWhile Text.isWhiteSpace)
  [Scope.file, Scope.nextLine, Scope.line].findSome? (readScope? command)

end Directive

/-- What the directives of a document switch off: rules for the whole
document, and rules on single lines. -/
structure Suppressions where
  fileRules : List String
  lineRules : List (String × Nat)
deriving DecidableEq, Repr, Inhabited

namespace Suppressions

/-- Nothing is switched off. -/
def empty : Suppressions :=
  ⟨[], []⟩

/-- How many lines can be told apart: line numbers have 64 bits. -/
def lineCount : Nat :=
  18446744073709551616

/-- The line behind a line; the first one, line zero, follows the last one. -/
def nextLine (line : Nat) : Nat :=
  (line + 1) % lineCount

/-- Adds what a comment switches off. -/
def addComment (suppressions : Suppressions) (comment : Token) : Suppressions :=
  match Directive.ofComment? comment.chars with
  | none => suppressions
  | some ⟨.file, rules⟩ =>
      { suppressions with fileRules := suppressions.fileRules ++ rules }
  | some ⟨.nextLine, rules⟩ =>
      { suppressions with
        lineRules := suppressions.lineRules ++ rules.map (·, nextLine comment.loc.stop.line) }
  | some ⟨.line, rules⟩ =>
      { suppressions with
        lineRules := suppressions.lineRules ++ rules.map (·, comment.loc.start.line) }

/-- Adds what a node switches off: only comments do. -/
def addNode (suppressions : Suppressions) : Node → Suppressions
  | .comment token => suppressions.addComment token
  | _ => suppressions

/-- What the comments of a forest switch off. -/
def ofForest (forest : List Node) : Suppressions :=
  (walk forest).foldl addNode empty

/-- Whether nothing is switched off. -/
def isEmpty (suppressions : Suppressions) : Bool :=
  suppressions.fileRules.isEmpty && suppressions.lineRules.isEmpty

/-- Whether a rule is switched off for the whole document. -/
def coversFile (suppressions : Suppressions) (rule : String) : Bool :=
  suppressions.fileRules.contains rule || suppressions.fileRules.contains "all"

/-- Whether a rule is switched off on a line. -/
def coversLine (suppressions : Suppressions) (rule : String) (line : Nat) : Bool :=
  suppressions.lineRules.contains (rule, line) || suppressions.lineRules.contains ("all", line)

/-- Whether an issue is switched off. -/
def suppresses (suppressions : Suppressions) (issue : Issue) : Bool :=
  suppressions.coversFile issue.rule ||
    suppressions.coversLine issue.rule issue.position.start.line

end Suppressions

end MarkupLint
