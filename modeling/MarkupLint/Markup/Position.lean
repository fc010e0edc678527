/-!
# Positions in a text

A position counts lines and columns from one and bytes from zero. `Position.after` is the plain
definition: the position behind a piece of text, read off that piece. Positions are compared by
line, then by column, then by offset, and a location spans from one position to another.
-/

namespace MarkupLint.Markup

/-- The number of bytes that characters take in UTF-8. -/
def byteSize (chars : List Char) : Nat :=
  chars.foldr (fun c size => c.utf8Size + size) 0

@[simp]
theorem byteSize_nil : byteSize [] = 0 :=
  rfl

@[simp]
theorem byteSize_cons (c : Char) (chars : List Char) :
    byteSize (c :: chars) = c.utf8Size + byteSize chars :=
  rfl

@[simp]
theorem byteSize_append (first second : List Char) :
    byteSize (first ++ second) = byteSize first + byteSize second := by
  induction first with
  | nil => simp
  | cons c rest ih => simp [ih, Nat.add_assoc]

/-- A point in a text: line and column count from one, the offset counts bytes from zero. -/
structure Position where
  line : Nat
  column : Nat
  offset : Nat
deriving DecidableEq, Repr, Inhabited

namespace Position

/-- The position at which every text begins. -/
def start : Position :=
  ⟨1, 1, 0⟩

/-- The number of characters behind the last line break. -/
def lastLineLength (before : List Char) : Nat :=
  (before.reverse.takeWhile (· != '\n')).length

/-- The position behind the text `before`: one more than its line breaks, one more than the
characters of its last line, and its size in bytes. -/
def after (before : List Char) : Position where
  line := 1 + before.count '\n'
  column := 1 + lastLineLength before
  offset := byteSize before

/-- The position behind a character that stands at `position`. -/
def advance (position : Position) (c : Char) : Position :=
  if c = '\n' then ⟨position.line + 1, 1, position.offset + c.utf8Size⟩
  else ⟨position.line, position.column + 1, position.offset + c.utf8Size⟩

@[simp]
theorem after_nil : after [] = start :=
  rfl

/-- Reading one more character advances the position. -/
theorem after_concat (before : List Char) (c : Char) :
    after (before ++ [c]) = (after before).advance c := by
  by_cases lineBreak : c = '\n'
  · subst lineBreak
    simp [after, advance, lastLineLength]
    omega
  · simp [after, advance, lastLineLength, lineBreak]
    omega

/-- Positions are ordered by line, then by column, then by offset. -/
def Precedes (first second : Position) : Prop :=
  first.line < second.line ∨
    (first.line = second.line ∧
      (first.column < second.column ∨
        (first.column = second.column ∧ first.offset < second.offset)))

instance : LT Position :=
  ⟨Precedes⟩

instance (first second : Position) : Decidable (first < second) :=
  inferInstanceAs (Decidable
    (first.line < second.line ∨
      (first.line = second.line ∧
        (first.column < second.column ∨
          (first.column = second.column ∧ first.offset < second.offset)))))

instance : Min Position :=
  ⟨fun first second => if second < first then second else first⟩

instance : Max Position :=
  ⟨fun first second => if first < second then second else first⟩

end Position

/-- A span of text, from one position to another. -/
structure Location where
  start : Position
  stop : Position
deriving DecidableEq, Repr, Inhabited

namespace Location

/-- An empty span at a line and column, for what is not tied to a piece of text. -/
def point (line column : Nat) : Location :=
  ⟨⟨line, column, 0⟩, ⟨line, column, 0⟩⟩

/-- The smallest span that holds both locations. -/
def cover (first second : Location) : Location :=
  ⟨min first.start second.start, max first.stop second.stop⟩

end Location

end MarkupLint.Markup
