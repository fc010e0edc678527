import MarkupLint.Markup.Position
import MarkupLint.Text.Lowercase

/-!
# The tree of a document

A document is a forest of nodes. A node is an element with a tag and children, or a leaf: text, a
comment or a declaration. Each piece of text that a node was read from is kept as a token, with
its location. Tokens made of the placeholder character alone stand for content that was blanked
out before, and rules leave them alone.
-/

namespace MarkupLint.Markup

/-- The character that stands for blanked-out content. -/
def placeholderChar : Char :=
  '¤'

/-- Whether a text is a run of placeholder characters. -/
def isPlaceholderText (text : String) : Bool :=
  !text.toList.isEmpty && text.toList.all (· == placeholderChar)

/-- A piece of text with its location. -/
structure Token where
  chars : String
  loc : Location
  isPlaceholder : Bool
deriving DecidableEq, Repr, Inhabited

/-- A token, marked as a placeholder if its text is one. -/
def Token.new (chars : String) (loc : Location) : Token :=
  ⟨chars, loc, isPlaceholderText chars⟩

/-- An attribute of a tag; the value is missing if none was written. -/
structure Attribute where
  name : Token
  value : Option Token
  loc : Location
deriving DecidableEq, Repr, Inhabited

namespace Attribute

/-- An attribute that spans its name and its value. -/
def new (name : Token) (value : Option Token) : Attribute where
  name := name
  value := value
  loc :=
    match value with
    | some token => name.loc.cover token.loc
    | none => name.loc

/-- Whether the attribute bears a name, up to case. -/
def isNamed (attr : Attribute) (name : String) : Bool :=
  Text.namesMatch attr.name.chars name

/-- Whether the attribute stands for blanked-out content. -/
def isPlaceholder (attr : Attribute) : Bool :=
  attr.name.isPlaceholder

end Attribute

/-- What is known of an element apart from its children: the name it is matched by, its
attributes, its name as written in the opening and in the closing tag, and its span. -/
structure Tag where
  name : String
  attributes : List Attribute
  opening : Token
  closing : Option Token
  loc : Location
deriving DecidableEq, Repr, Inhabited

namespace Tag

/-- A tag without attributes and closing, at the location of its opening name. -/
def new (name : String) (opening : Token) : Tag :=
  ⟨name, [], opening, none, opening.loc⟩

/-- The tag with one more attribute. -/
def withAttribute (tag : Tag) (attr : Attribute) : Tag :=
  { tag with attributes := tag.attributes ++ [attr] }

/-- The tag closed by a name, whose location it then covers. -/
def withClosing (tag : Tag) (closing : Token) : Tag :=
  { tag with closing := some closing, loc := tag.loc.cover closing.loc }

end Tag

/-- A node of a document. -/
inductive Node where
  | element (tag : Tag) (children : List Node)
  | text (token : Token)
  | comment (token : Token)
  | doctype (token : Token)
deriving Repr, Inhabited

namespace Node

/-- Where the node stands. -/
def loc : Node → Location
  | .element tag _ => tag.loc
  | .text token => token.loc
  | .comment token => token.loc
  | .doctype token => token.loc

/-- The nodes directly inside. -/
def children : Node → List Node
  | .element _ children => children
  | _ => []

/-- The tag of an element. -/
def tag? : Node → Option Tag
  | .element tag _ => some tag
  | _ => none

/-- The word for the kind of the node. -/
def kind : Node → String
  | .element _ _ => "tag"
  | .text _ => "text"
  | .comment _ => "comment"
  | .doctype _ => "doctype"

/-- What the node is called: the name of an element, the text of a leaf. -/
def label : Node → String
  | .element tag _ => tag.name
  | .text token => token.chars
  | .comment token => token.chars
  | .doctype token => token.chars

end Node

end MarkupLint.Markup
