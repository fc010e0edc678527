import MarkupLint.Markup.Attributes
import MarkupLint.Markup.Element
import MarkupLint.Rule.Basic

/-!
# Attributes need a value

Every attribute has to have a value, unless its presence alone says something. Attributes are
judged by name: a value of one of several attributes of the same name is enough.
-/

namespace MarkupLint.Rule

open Markup

/-- Whether an attribute of a tag lacks a value it needs. -/
def lacksValue (tag : Tag) (attr : Attribute) : Bool :=
  let name := Text.lowercase attr.name.chars
  !attr.isPlaceholder && !(tag.hasFilled name || isBooleanAttribute name)

/-- What is reported of an attribute that lacks a value. -/
def missingValue (attr : Attribute) : Finding :=
  (Finding.new "E006" attr.loc).withData "attribute" (.string (Text.lowercase attr.name.chars))

/-- The rule that attributes have a value. -/
def attributeValue : Rule where
  name := "attr-req-value"
  validate := .ok
  check node _ :=
    match node.tag? with
    | some tag => ⟨(tag.attributes.filter (lacksValue tag)).map missingValue, none⟩
    | none => .nothing

end MarkupLint.Rule
