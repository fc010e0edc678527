import MarkupLint.Proofs.Json.ScalarText

/-!
# The lexemes of written values

Whatever the layout, the text of a value is cut into the lexemes of the value: blanks set them
apart and leave no trace. The text of a value is followed by no more of it, so each value is read
by itself, in front of whatever comes next (`lexes_writeBefore`).
-/

namespace MarkupLint.Json

/-! ## Cutting text -/

/-- What was found before stays in front. -/
theorem scanFrom_append (found older : List Lexeme) (chars : List Char) :
    scanFrom (found ++ older) chars = (scanFrom found chars).map (older.reverse ++ ·) := by
  fun_induction scanFrom found chars with
  | case1 found => simp [scanFrom]
  | case2 found c rest blank ih => rw [scanFrom, if_pos blank, ih]
  | case3 found c rest marked lexeme after read ih =>
      rw [scanFrom, if_neg marked]
      split
      · rename_i same
        rw [read] at same
        cases same
        exact ih
      · rename_i none
        rw [read] at none
        cases none
  | case4 found c rest marked read =>
      rw [scanFrom, if_neg marked]
      split
      · rename_i same
        rw [read] at same
        cases same
      · rfl

/-- `chars` are cut into the lexemes, and then `rest` is. -/
def Lexes (chars : List Char) (lexemes : List Lexeme) (rest : List Char) : Prop :=
  scan chars = (scan rest).map (lexemes ++ ·)

namespace Lexes

variable {chars middle rest : List Char} {first second : List Lexeme}

theorem refl (rest : List Char) : Lexes rest [] rest := by
  simp [Lexes]

theorem trans (front : Lexes chars first middle) (back : Lexes middle second rest) :
    Lexes chars (first ++ second) rest := by
  rw [Lexes, front, back, Option.map_map]
  congr 1
  funext lexemes
  exact (List.append_assoc first second lexemes).symm

/-- Blanks are passed over. -/
theorem blanks {gap : List Char} (blank : ∀ c ∈ gap, isBlank c = true) (rest : List Char) :
    Lexes (gap ++ rest) [] rest := by
  induction gap with
  | nil => exact refl rest
  | cons c gap ih =>
      rcases List.forall_mem_cons.mp blank with ⟨first, others⟩
      rw [Lexes, List.cons_append, scan, scanFrom, if_pos first]
      exact ih others

theorem lexeme {c : Char} {lexeme : Lexeme} (marked : isBlank c = false)
    (read : readLexeme (c :: chars) = some (lexeme, rest)) : Lexes (c :: chars) [lexeme] rest := by
  rw [Lexes, scan, scanFrom, if_neg (by simp [marked])]
  split
  · rename_i same
    rw [read] at same
    cases same
    exact scanFrom_append [] [lexeme] rest
  · rename_i none
    rw [read] at none
    cases none

end Lexes

theorem lexes_writeString (text : String) (rest : List Char) :
    Lexes (writeString text ++ rest) [.text text] rest :=
  .lexeme (c := '"') rfl (readLexeme_writeString text rest)

theorem lexes_writeBool (value : Bool) (rest : List Char) :
    Lexes (writeBool value ++ rest) [.scalar (.bool value)] rest := by
  cases value
  · exact .lexeme rfl rfl
  · exact .lexeme rfl rfl

theorem lexes_writeNumber {number : Number} (whole : number.isWhole = true) {rest : List Char}
    (ends : Number.EndsNumber rest) :
    Lexes (number.write ++ rest) [.scalar (.number number)] rest := by
  have read := Number.read?_write whole ends
  rcases Number.exists_write_eq_cons whole with ⟨c, chars, front, begins⟩
  rw [front, List.cons_append] at read ⊢
  apply Lexes.lexeme
  · rcases begins with rfl | decimal
    · rfl
    · simp only [isBlank, Bool.or_eq_false_iff, beq_eq_false_iff_ne]
      refine ⟨⟨⟨?_, ?_⟩, ?_⟩, ?_⟩ <;> rintro rfl <;> cases decimal
  · rw [readLexeme_of_number begins, read]
    rfl

/-! ## Values -/

mutual

/-- Every number in the value is an integer of 64 bits. -/
def wholeNumbers : Json → Bool
  | .number value => value.isWhole
  | .array items => wholeItems items
  | .object fields => wholeFields fields
  | _ => true

/-- Every number in the items is an integer of 64 bits. -/
def wholeItems : List Json → Bool
  | [] => true
  | item :: items => item.wholeNumbers && wholeItems items

/-- Every number in the values of the fields is an integer of 64 bits. -/
def wholeFields : List (String × Json) → Bool
  | [] => true
  | (_, value) :: fields => value.wholeNumbers && wholeFields fields

end

mutual

/-- The lexemes of a value. -/
def lexemes : Json → List Lexeme
  | .null => [.scalar .null]
  | .bool value => [.scalar (.bool value)]
  | .number value => [.scalar (.number value)]
  | .string value => [.text value]
  | .array [] => [.openBracket, .closeBracket]
  | .array (item :: items) => .openBracket :: (item.lexemes ++ itemLexemes items)
  | .object [] => [.openBrace, .closeBrace]
  | .object ((name, value) :: fields) =>
      .openBrace :: .text name :: .colon :: (value.lexemes ++ fieldLexemes fields)

/-- The lexemes of the further items of an array, and of its end. -/
def itemLexemes : List Json → List Lexeme
  | [] => [.closeBracket]
  | item :: items => .comma :: (item.lexemes ++ itemLexemes items)

/-- The lexemes of the further fields of an object, and of its end. -/
def fieldLexemes : List (String × Json) → List Lexeme
  | [] => [.closeBrace]
  | (name, value) :: fields =>
      .comma :: .text name :: .colon :: (value.lexemes ++ fieldLexemes fields)

end

/-- The layout sets things apart by blanks alone. -/
structure Layout.Blank (layout : Layout) : Prop where
  gap : ∀ level, ∀ c ∈ layout.gap level, isBlank c = true
  space : ∀ c ∈ layout.space, isBlank c = true

theorem Layout.compact_blank : Layout.compact.Blank where
  gap _ _ mem := nomatch mem
  space _ mem := nomatch mem

/-- A number ends in front of blanks and of a mark. -/
theorem endsNumber_gap {gap : List Char} (blank : ∀ c ∈ gap, isBlank c = true) {mark : Char}
    (ends : mark.isDigit = false ∧ mark ≠ '.' ∧ mark ≠ 'e' ∧ mark ≠ 'E') (rest : List Char) :
    Number.EndsNumber (gap ++ mark :: rest) := by
  cases gap with
  | nil =>
      rintro c ⟨rfl⟩
      exact ends
  | cons c gap =>
      rintro _ ⟨rfl⟩
      have first := (List.forall_mem_cons.mp blank).1
      simp only [isBlank, Bool.or_eq_true, beq_iff_eq] at first
      rcases first with ((rfl | rfl) | rfl) | rfl <;> decide

section Values

variable {layout : Layout} (blank : layout.Blank)
include blank

theorem endsNumber_writeItems (level : Nat) (rest : List Char) (items : List Json) :
    Number.EndsNumber (writeItems layout level rest items) := by
  cases items with
  | nil => exact endsNumber_gap (blank.gap level) (by decide) rest
  | cons item items =>
      rintro _ ⟨rfl⟩
      decide

theorem endsNumber_writeFields (level : Nat) (rest : List Char) (fields : List (String × Json)) :
    Number.EndsNumber (writeFields layout level rest fields) := by
  cases fields with
  | nil => exact endsNumber_gap (blank.gap level) (by decide) rest
  | cons field fields =>
      rintro _ ⟨rfl⟩
      decide

/-- The name of a field and the colon are cut off in front of its value. -/
theorem lexes_field (name : String) (level : Nat) {chars rest : List Char} {lexemes : List Lexeme}
    (value : Lexes chars lexemes rest) :
    Lexes (layout.gap level ++ (writeString name ++ ':' :: (layout.space ++ chars)))
      (.text name :: .colon :: lexemes) rest := by
  have colon : ∀ chars, Lexes (':' :: chars) [.colon] chars := fun chars => .lexeme rfl rfl
  have named :=
    (lexes_writeString name _).trans ((colon _).trans ((Lexes.blanks blank.space _).trans value))
  exact (Lexes.blanks (blank.gap level) _).trans named

mutual

/-- The text of a value is cut into its lexemes. -/
theorem lexes_writeBefore (value : Json) (whole : value.wholeNumbers = true) (level : Nat)
    {rest : List Char} (ends : Number.EndsNumber rest) :
    Lexes (writeBefore layout level rest value) value.lexemes rest := by
  cases value with
  | null => exact .lexeme rfl rfl
  | bool value => exact lexes_writeBool value rest
  | number value => exact lexes_writeNumber whole ends
  | string value => exact lexes_writeString value rest
  | array items =>
      have opens : ∀ chars, Lexes ('[' :: chars) [.openBracket] chars := fun chars =>
        .lexeme rfl rfl
      cases items with
      | nil => exact (opens _).trans (.lexeme rfl rfl)
      | cons item items =>
          rcases Bool.and_eq_true_iff.mp whole with ⟨first, others⟩
          have later := lexes_writeItems items others level rest
          have item := lexes_writeBefore item first (level + 1)
            (endsNumber_writeItems blank level rest items)
          exact (opens _).trans ((Lexes.blanks (blank.gap _) _).trans (item.trans later))
  | object fields =>
      have opens : ∀ chars, Lexes ('\x7b' :: chars) [.openBrace] chars := fun chars =>
        .lexeme rfl rfl
      cases fields with
      | nil => exact (opens _).trans (.lexeme rfl rfl)
      | cons field fields =>
          obtain ⟨name, value⟩ := field
          rcases Bool.and_eq_true_iff.mp whole with ⟨first, others⟩
          have later := lexes_writeFields fields others level rest
          have value := lexes_writeBefore value first (level + 1)
            (endsNumber_writeFields blank level rest fields)
          exact (opens _).trans (lexes_field blank name (level + 1) (value.trans later))

/-- The text of the further items of an array is cut into their lexemes. -/
theorem lexes_writeItems (items : List Json) (whole : wholeItems items = true) (level : Nat)
    (rest : List Char) : Lexes (writeItems layout level rest items) (itemLexemes items) rest := by
  cases items with
  | nil => exact (Lexes.blanks (blank.gap level) _).trans (.lexeme rfl rfl)
  | cons item items =>
      rcases Bool.and_eq_true_iff.mp whole with ⟨first, others⟩
      have comma : ∀ chars, Lexes (',' :: chars) [.comma] chars := fun chars => .lexeme rfl rfl
      have later := lexes_writeItems items others level rest
      have item :=
        lexes_writeBefore item first (level + 1) (endsNumber_writeItems blank level rest items)
      exact (comma _).trans ((Lexes.blanks (blank.gap _) _).trans (item.trans later))

/-- The text of the further fields of an object is cut into their lexemes. -/
theorem lexes_writeFields (fields : List (String × Json)) (whole : wholeFields fields = true)
    (level : Nat) (rest : List Char) :
    Lexes (writeFields layout level rest fields) (fieldLexemes fields) rest := by
  cases fields with
  | nil => exact (Lexes.blanks (blank.gap level) _).trans (.lexeme rfl rfl)
  | cons field fields =>
      obtain ⟨name, value⟩ := field
      rcases Bool.and_eq_true_iff.mp whole with ⟨first, others⟩
      have comma : ∀ chars, Lexes (',' :: chars) [.comma] chars := fun chars => .lexeme rfl rfl
      have later := lexes_writeFields fields others level rest
      have value := lexes_writeBefore value first (level + 1)
        (endsNumber_writeFields blank level rest fields)
      exact (comma _).trans (lexes_field blank name (level + 1) (value.trans later))

end

end Values

end MarkupLint.Json
