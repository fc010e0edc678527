import MarkupLint.Rule.AttributeValue
import MarkupLint.Rule.LanguageStyle
import MarkupLint.Rule.TagNameMatch

/-!
# The built-in rules

The rules that come with the library, in the order in which they run.
-/

namespace MarkupLint.Rule

/-- The built-in rules, in order. -/
def builtin : List Rule :=
  [attributeValue, languageStyle, tagNameMatch]

end MarkupLint.Rule
