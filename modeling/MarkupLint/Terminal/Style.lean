/-!
# Styles on a terminal

A text is set in a style by a code in front of it and a code behind it that
ends all styles. Where a text already holds the ending code, the opening code
is put in again, so that the style lasts to the end.
-/

namespace MarkupLint.Terminal

/-- A colour of letters. -/
inductive Color where
  | red
  | yellow
  | cyan
deriving DecidableEq, Repr, Inhabited

/-- The number of a colour in a code. -/
def Color.number : Color → String
  | .red => "31"
  | .yellow => "33"
  | .cyan => "36"

/-- A way to set a text. -/
structure Style where
  bold : Bool
  underlined : Bool
  color : Option Color
deriving DecidableEq, Repr, Inhabited

/-- The character that starts a code. -/
def escape : Char :=
  '\x1b'

/-- The code that ends all styles. -/
def reset : List Char :=
  [escape, '[', '0', 'm']

namespace Style

/-- Letters in a colour. -/
def colored (color : Color) : Style :=
  ⟨false, false, some color⟩

/-- Bold letters in a colour. -/
def boldColored (color : Color) : Style :=
  ⟨true, false, some color⟩

/-- Bold letters. -/
def strong : Style :=
  ⟨true, false, none⟩

/-- Underlined letters. -/
def underline : Style :=
  ⟨false, true, none⟩

/-- The numbers of a style. -/
def numbers (style : Style) : List String :=
  (if style.bold then ["1"] else []) ++ (if style.underlined then ["4"] else []) ++
    (style.color.map Color.number).toList

/-- The code that starts a style. -/
def opening (style : Style) : List Char :=
  escape :: '[' :: (";".intercalate style.numbers).toList ++ ['m']

end Style

/-- Puts an opening code behind every ending code in a text. -/
def renew (opening : List Char) : List Char → List Char
  | '\x1b' :: '[' :: '0' :: 'm' :: rest => reset ++ opening ++ renew opening rest
  | c :: rest => c :: renew opening rest
  | [] => []

/-- Sets a text in a style, if codes are to be written at all. -/
def paint (codes : Bool) (style : Style) (text : List Char) : List Char :=
  if codes then style.opening ++ renew style.opening text ++ reset else text

/-- Fills a text with spaces up to a number of characters. -/
def pad (width : Nat) (text : List Char) : List Char :=
  text ++ List.replicate (width - text.length) ' '

/-- Whether a variable of the environment is set to something other than zero. -/
def isOn (setting : Option String) : Bool :=
  setting.any (· != "0")

/-- Whether codes are to be written: if they are forced; otherwise unless they
are refused; otherwise on a terminal, unless they are switched off. The
arguments are the variables of the environment that say so. -/
def takesCodes (force refuse wanted : Option String) (isTerminal : Bool) : Bool :=
  if isOn force then true
  else if refuse.isSome then false
  else wanted.all (· != "0") && isTerminal

@[simp]
theorem paint_false (style : Style) (text : List Char) : paint false style text = text :=
  rfl

end MarkupLint.Terminal
