import MarkupLint.Text.CodeRanges

/-!
# White space

Two notions of blank characters are in use. Markup is divided by the five ASCII blanks; text is
trimmed, and comments are read, with the white space of every script.
-/

namespace MarkupLint.Text

/-- The white space of every script. -/
def whiteSpaceRanges : CodeRanges :=
  [(0x9, 0xD), (0x20, 0x20), (0x85, 0x85), (0xA0, 0xA0), (0x1680, 0x1680), (0x2000, 0x200A),
   (0x2028, 0x2029), (0x202F, 0x202F), (0x205F, 0x205F), (0x3000, 0x3000)]

/-- Whether a character is white space in some script. -/
def isWhiteSpace (c : Char) : Bool :=
  whiteSpaceRanges.contains c

/-- Whether a character is one of the blanks of markup: space, tab, line feed,
form feed, return. -/
def isBlank (c : Char) : Bool :=
  c == ' ' || c == '\t' || c == '\n' || c == '\x0c' || c == '\r'

/-- The characters without white space at their end. -/
def trimEnd (chars : List Char) : List Char :=
  (chars.reverse.dropWhile isWhiteSpace).reverse

/-- The characters without white space at either end. -/
def trimChars (chars : List Char) : List Char :=
  trimEnd (chars.dropWhile isWhiteSpace)

/-- The text without white space at either end. -/
def trim (text : String) : String :=
  String.ofList (trimChars text.toList)

/-- Whether a text holds nothing but white space. -/
def isBlankText (text : String) : Bool :=
  text.toList.all isWhiteSpace

end MarkupLint.Text
