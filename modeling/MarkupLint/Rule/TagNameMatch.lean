import MarkupLint.Rule.Basic

/-!
# Opening and closing names

The name in a closing tag has to be written as in the opening tag. Names that
differ in more than case are no matter of this rule.
-/

namespace MarkupLint.Rule

open Markup

/-- The closing name of a tag, if it matches the tag but is written otherwise
than the opening name. -/
def mismatchedClosing? (tag : Tag) : Option Token :=
  tag.closing.filter fun closing =>
    Text.namesMatch tag.name closing.chars && tag.opening.chars != closing.chars

/-- The rule that opening and closing names are written alike. -/
def tagNameMatch : Rule where
  name := "tag-name-match"
  validate := .ok
  check node _ :=
    match node.tag? with
    | none => .nothing
    | some tag =>
        match mismatchedClosing? tag with
        | none => .nothing
        | some closing =>
            .found ((Finding.new "E030" closing.loc).withData "open" tag.opening.toJson.sorted)

end MarkupLint.Rule
