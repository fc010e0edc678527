import MarkupLint.Markup.Cursor
import MarkupLint.Markup.Lexeme
import MarkupLint.Markup.Node

/-!
# Locating what was read

An event is a lexeme with its place in the text: the slices have become tokens
with lines and columns. The offsets of the lexemes are looked up by one
cursor, those of a tag behind those of its attributes.
-/

namespace MarkupLint.Markup

/-- A lexeme whose slices are located. An opening tag stands alone if nothing can stand inside it;
a closing tag keeps its whole text beside the name, since it may turn out to close nothing. -/
inductive Event where
  | text (token : Token)
  | comment (token : Token)
  | doctype (token : Token)
  | opening (tag : Tag) (standsAlone : Bool)
  | closing (whole name : Token)
deriving DecidableEq, Repr, Inhabited

/-- Locates a slice. -/
def Slice.locate (slice : Slice) : Locating Token := do
  let loc ← locationAt slice.start slice.stop
  return Token.new (String.ofList slice.chars) loc

/-- Locates an attribute. -/
def AttributeLexeme.locate (lexeme : AttributeLexeme) : Locating Attribute := do
  let name ← lexeme.name.locate
  match lexeme.value with
  | none => return Attribute.new name none
  | some slice =>
      let value ← slice.locate
      return Attribute.new name (some value)

/-- Locates an opening tag. -/
def OpeningLexeme.locate (lexeme : OpeningLexeme) : Locating Tag := do
  let name ← lexeme.name.locate
  let attributes ← lexeme.attributes.mapM AttributeLexeme.locate
  let start ← positionAt lexeme.start
  let stop ← positionAt lexeme.stop
  return ⟨lexeme.elementName, attributes, name, none, ⟨start, stop⟩⟩

/-- Locates a lexeme. -/
def Lexeme.locate : Lexeme → Locating Event
  | .text slice => Event.text <$> slice.locate
  | .comment slice => Event.comment <$> slice.locate
  | .doctype slice => Event.doctype <$> slice.locate
  | .opening lexeme => do
      let tag ← lexeme.locate
      return .opening tag lexeme.standsAlone
  | .closing whole name => do
      let name ← name.locate
      let whole ← whole.locate
      return .closing whole name

end MarkupLint.Markup
