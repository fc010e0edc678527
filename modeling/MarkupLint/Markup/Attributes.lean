import MarkupLint.Markup.Node
import MarkupLint.Text.WhiteSpace

/-!
# Looking attributes up

Attributes are found by name, up to case. Several attributes of a tag may bear the same name.
-/

namespace MarkupLint.Markup

namespace Attribute

/-- Whether the attribute has a value that is not blank. -/
def isFilled (attr : Attribute) : Bool :=
  match attr.value with
  | some value => !Text.isBlankText value.chars
  | none => false

end Attribute

namespace Tag

/-- The attributes that bear a name. -/
def named (tag : Tag) (name : String) : List Attribute :=
  tag.attributes.filter (·.isNamed name)

/-- Whether some attribute of a name has a value that is not blank. -/
def hasFilled (tag : Tag) (name : String) : Bool :=
  tag.attributes.any fun attr => attr.isNamed name && attr.isFilled

/-- The value of the first attribute of a name. -/
def valueOf? (tag : Tag) (name : String) : Option Token := do
  let attr ← tag.attributes.find? (·.isNamed name)
  attr.value

end Tag

end MarkupLint.Markup
