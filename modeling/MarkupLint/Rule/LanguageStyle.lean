import MarkupLint.Language
import MarkupLint.Markup.Attributes
import MarkupLint.Rule.Basic

/-!
# The language of a document

The `lang` attribute of the root element has to be a valid language tag; if the options ask for
it, it has to be in canonical form too. How tags are judged can be chosen.
-/

namespace MarkupLint.Rule

open Markup

/-- The options of the rule are a truth value or the word `case`. -/
def validateLanguageStyle : Json → Except String Json
  | .bool value => .ok (.bool value)
  | .string "case" => .ok (.string "case")
  | .string _ => .error "Only \"case\" is accepted as string value"
  | other => .error ("Expected boolean got " ++ other.kind)

/-- Whether the options ask for the canonical form. -/
def checksCase : Json → Bool
  | .string text => text == "case"
  | _ => false

/-- The value that names the language of a root element: that of its first
`lang` attribute, if any `lang` attribute is filled in and the first is not
blanked out. The first one may be blank itself. -/
def languageToken? (tag : Tag) : Option Token :=
  if tag.name == "html" && tag.hasFilled "lang" then
    (tag.valueOf? "lang").filter fun token => !token.isPlaceholder
  else none

/-- The code under which a verdict is reported, if it is. -/
def verdictCode? (options : Json) : Language.Verdict → Option String
  | .valid => none
  | .invalidSubtag => some "E038"
  | .nonCanonicalCase => if checksCase options then some "E039" else none

/-- The rule about the language of a document, with a way to judge language tags. -/
def languageStyleWith (classify : Language.Classifier) : Rule where
  name := "lang-style"
  validate := validateLanguageStyle
  check node options :=
    match node.tag?.bind languageToken? with
    | none => .nothing
    | some token =>
        match verdictCode? options (classify token.chars) with
        | none => .nothing
        | some code => .found ((Finding.new code token.loc).withData "lang" (.string token.chars))

/-- The rule about the language of a document. -/
def languageStyle : Rule :=
  languageStyleWith Language.classify

end MarkupLint.Rule
