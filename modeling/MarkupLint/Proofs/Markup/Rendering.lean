import MarkupLint.Markup.Forest

/-!
# Writing a forest as text

`Renders nodes chars` says by rules that `chars` is a way of writing the forest. There are many:
blanks between and inside attributes, the quotes of a value and the end of a tag are free. Not
every forest comes back when it is written and read, since two texts side by side are read as one
and a comment cannot hold its own end. Those that are `Canonical` do. Locations play no part in
either; `Node.unplaced` forgets them.
-/

namespace MarkupLint.Markup

/-! ## Forgetting locations -/

/-- The location of what has none: the beginning of a text. -/
def Location.origin : Location :=
  ⟨Position.start, Position.start⟩

/-- The token of a text in no particular place. -/
def Token.anywhere (chars : String) : Token :=
  Token.new chars Location.origin

/-- The token without its location. -/
def Token.unplaced (token : Token) : Token :=
  { token with loc := Location.origin }

/-- The attribute without its locations. -/
def Attribute.unplaced (attr : Attribute) : Attribute :=
  ⟨attr.name.unplaced, attr.value.map Token.unplaced, Location.origin⟩

/-- The tag without its locations. -/
def Tag.unplaced (tag : Tag) : Tag where
  name := tag.name
  attributes := tag.attributes.map Attribute.unplaced
  opening := tag.opening.unplaced
  closing := tag.closing.map Token.unplaced
  loc := Location.origin

mutual

/-- The node without the locations in it. -/
def Node.unplaced : Node → Node
  | .element tag children => .element tag.unplaced (unplaced children)
  | .text token => .text token.unplaced
  | .comment token => .comment token.unplaced
  | .doctype token => .doctype token.unplaced

/-- The forest without the locations in it. -/
def unplaced : List Node → List Node
  | [] => []
  | node :: nodes => node.unplaced :: unplaced nodes

end

/-! ## Canonical forests -/

/-- The token is marked as a placeholder exactly if its text is one. -/
def Token.Built (token : Token) : Prop :=
  token = Token.new token.chars token.loc

theorem Token.Built.unplaced_eq {token : Token} (built : token.Built) :
    token.unplaced = Token.anywhere token.chars := by
  rw [built]
  rfl

theorem Token.Built.isPlaceholder_eq {token : Token} (built : token.Built) :
    token.isPlaceholder = isPlaceholderText token.chars := by
  rw [built]
  rfl

/-- A name of a tag: a letter, and behind it no blank, slash or closing bracket. -/
def IsTagName (chars : List Char) : Prop :=
  ∃ letter rest, chars = letter :: rest ∧ letter.isAlpha = true ∧
    ∀ c ∈ rest, isTagNameChar c = true

/-- The name of the attribute has some characters, none of which ends it. -/
structure Attribute.Canonical (attr : Attribute) : Prop where
  name_built : attr.name.Built
  name_ne_nil : attr.name.chars.toList ≠ []
  name_chars : ∀ c ∈ attr.name.chars.toList, isAttributeNameChar c = true
  value_built : ∀ value ∈ attr.value, value.Built

/-- The tag is matched by its written name in lower case. -/
structure Tag.Canonical (tag : Tag) : Prop where
  opening_built : tag.opening.Built
  opening_name : IsTagName tag.opening.chars.toList
  name : tag.name = Text.lowercase tag.opening.chars
  attributes : ∀ attr ∈ tag.attributes, attr.Canonical

/-- The element can have content, and the closing name is one for it. -/
structure Tag.ClosedBy (tag : Tag) (close : Token) : Prop where
  written : tag.closing = some close
  built : close.Built
  closing_name : IsTagName close.chars.toList
  contains : isVoidElement tag.name = false
  matching : Text.namesMatch tag.name close.chars = true

/-- Nowhere in the text is the element `name` closed, in any case of its letters. -/
def NowhereCloses (name chars : List Char) : Prop :=
  ∀ before written c after, chars = before ++ '<' :: '/' :: (written ++ c :: after) →
    written.map Char.toLower = name → isTagNameChar c = true

/-- The node is a text. -/
def Node.IsText : Node → Prop
  | .text _ => True
  | _ => False

/-- A forest that comes back when it is written and read. -/
inductive Canonical : List Node → Prop where
  | nil : Canonical []
  | text {token : Token} {nodes : List Node} (built : token.Built)
      (nonempty : token.chars.toList ≠ [])
      (plain : '<' ∉ token.chars.toList) (apart : ∀ next ∈ nodes.head?, ¬ next.IsText)
      (more : Canonical nodes) : Canonical (.text token :: nodes)
  | comment {token : Token} {body : List Char} {nodes : List Node} (built : token.Built)
      (written : token.chars.toList = "<!--".toList ++ body ++ "-->".toList)
      (unended : ¬ "-->".toList <:+: body) (more : Canonical nodes) :
      Canonical (.comment token :: nodes)
  | doctype {token : Token} {body : List Char} {nodes : List Node} (built : token.Built)
      (written : token.chars.toList = "<!".toList ++ body ++ ">".toList) (unended : '>' ∉ body)
      (uncommented : ¬ "--".toList <+: body) (more : Canonical nodes) :
      Canonical (.doctype token :: nodes)
  | unclosed {tag : Tag} {nodes : List Node} (canonical : tag.Canonical)
      (unclosed : tag.closing = none)
      (more : Canonical nodes) : Canonical (.element tag [] :: nodes)
  | closed {tag : Tag} {close : Token} {children nodes : List Node} (canonical : tag.Canonical)
      (closedBy : tag.ClosedBy close) (ordinary : isRawTextElement tag.name = false)
      (content : Canonical children) (more : Canonical nodes) :
      Canonical (.element tag children :: nodes)
  | emptyRaw {tag : Tag} {close : Token} {nodes : List Node} (canonical : tag.Canonical)
      (closedBy : tag.ClosedBy close) (raw : isRawTextElement tag.name = true)
      (more : Canonical nodes) : Canonical (.element tag [] :: nodes)
  | raw {tag : Tag} {close content : Token} {nodes : List Node} (canonical : tag.Canonical)
      (closedBy : tag.ClosedBy close) (raw : isRawTextElement tag.name = true)
      (built : content.Built) (nonempty : content.chars.toList ≠ [])
      (unended : NowhereCloses tag.name.toList content.chars.toList) (more : Canonical nodes) :
      Canonical (.element tag [.text content] :: nodes)

/-! ## Ways of writing a forest -/

/-- All the characters are blanks. -/
def Blanks (chars : List Char) : Prop :=
  ∀ c ∈ chars, Text.isBlank c = true

instance (chars : List Char) : Decidable (Blanks chars) :=
  decidable_of_iff (chars.all Text.isBlank = true) List.all_eq_true

/-- `ValueWritten value bare chars`: the value is written in quotes that do
not occur in it, or bare. -/
inductive ValueWritten (value : List Char) : Bool → List Char → Prop where
  | double (unquoted : '"' ∉ value) : ValueWritten value false ('"' :: (value ++ ['"']))
  | single (unquoted : '\x27' ∉ value) : ValueWritten value false ('\x27' :: (value ++ ['\x27']))
  | bare (nonempty : value ≠ []) (plain : ∀ c ∈ value, isBareValueChar c = true)
      (unquoted : ∀ c ∈ value.head?, c ≠ '"' ∧ c ≠ '\x27') : ValueWritten value true value

/-- `AttributeWritten attr bare chars`: the attribute is written as its name or, with a value, as
its name, an equals sign and the value, and it ends with a bare value or not. -/
inductive AttributeWritten (attr : Attribute) : Bool → List Char → Prop where
  | flag (unvalued : attr.value = none) : AttributeWritten attr false attr.name.chars.toList
  | valued {value : Token} {bare : Bool} {before after chars : List Char}
      (valued : attr.value = some value)
      (blanksBefore : Blanks before) (blanksAfter : Blanks after)
      (written : ValueWritten value.chars.toList bare chars) :
      AttributeWritten attr bare (attr.name.chars.toList ++ before ++ '=' :: (after ++ chars))

/-- `BodyWritten attributes selfClosing chars`: behind the name of an opening
tag, the attributes are written with blanks in front of each, then the end of
the tag. A slash there stands apart from a bare value. -/
inductive BodyWritten : List Attribute → Bool → List Char → Prop where
  | ended {blanks : List Char} (blank : Blanks blanks) : BodyWritten [] false (blanks ++ ['>'])
  | selfClosed {blanks : List Char} (blank : Blanks blanks) :
      BodyWritten [] true (blanks ++ ['/', '>'])
  | attr {attr : Attribute} {attributes : List Attribute} {bare selfClosing : Bool}
      {blanks chars rest : List Char} (blank : Blanks blanks) (separate : blanks ≠ [])
      (written : AttributeWritten attr bare chars) (more : BodyWritten attributes selfClosing rest)
      (apart : bare = true → rest.head? ≠ some '/') :
      BodyWritten (attr :: attributes) selfClosing (blanks ++ chars ++ rest)

/-- `Renders nodes chars`: the characters write the forest. An element without a closing name
closes itself, unless it never has content. -/
inductive Renders : List Node → List Char → Prop where
  | nil : Renders [] []
  | text {token : Token} {nodes : List Node} {chars : List Char} (more : Renders nodes chars) :
      Renders (.text token :: nodes) (token.chars.toList ++ chars)
  | comment {token : Token} {nodes : List Node} {chars : List Char} (more : Renders nodes chars) :
      Renders (.comment token :: nodes) (token.chars.toList ++ chars)
  | doctype {token : Token} {nodes : List Node} {chars : List Char} (more : Renders nodes chars) :
      Renders (.doctype token :: nodes) (token.chars.toList ++ chars)
  | unclosed {tag : Tag} {selfClosing : Bool} {nodes : List Node} {body chars : List Char}
      (unclosed : tag.closing = none) (head : BodyWritten tag.attributes selfClosing body)
      (alone : selfClosing = true ∨ isVoidElement tag.name = true) (more : Renders nodes chars) :
      Renders (.element tag [] :: nodes) ('<' :: (tag.opening.chars.toList ++ body ++ chars))
  | closed {tag : Tag} {close : Token} {children nodes : List Node}
      {body content blanks chars : List Char}
      (written : tag.closing = some close) (head : BodyWritten tag.attributes false body)
      (inside : Renders children content) (blank : Blanks blanks) (more : Renders nodes chars) :
      Renders (.element tag children :: nodes)
        ('<' :: (tag.opening.chars.toList ++ body ++ (content ++
          '<' :: '/' :: (close.chars.toList ++ blanks ++ '>' :: chars))))

end MarkupLint.Markup
