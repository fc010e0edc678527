import MarkupLint.Proofs.Json.Lexing
import MarkupLint.Proofs.Terminal.Codes

/-!
# The text of a value holds no escape character

Strings are written with their control characters escaped, and all else is
written in letters, digits and signs. So whatever strings a value holds, its
text has no escape character (`plain_compact`). A string that is taken out of
the value and shown as it is has one only if the value has it among its texts.
-/

namespace MarkupLint.Json

open Terminal

/-! ## Numbers -/

namespace Number

theorem plain_toString_int (value : Int) : Plain (toString value).toList := by
  change Plain (Number.integer value).write
  rcases value with n | n
  · rw [write_ofNat]
    exact plain_toDigits n
  · rw [write_negSucc, plain_cons_iff]
    exact ⟨by decide, plain_toDigits (n + 1)⟩

/-- However the point and the exponent are set, only digits and signs are written. -/
theorem plain_layout {digits : List Char} (plain : Plain digits) (exponent : Int) :
    Plain (layout digits exponent) := by
  have zeros : ∀ count, Plain (List.replicate count '0') := plain_replicate (by decide)
  have part : ∀ {chars : List Char}, chars ⊆ digits → Plain chars := fun sub mem => plain (sub mem)
  -- Four shapes: a whole number, a point between digits, a point behind zeros, and an exponent.
  unfold layout
  simp only
  split
  · rw [plain_append_iff, plain_append_iff]
    exact ⟨⟨plain, zeros _⟩, by decide⟩
  split
  · rw [plain_append_iff, plain_cons_iff]
    exact ⟨part (List.take_subset _ _), by decide, part (List.drop_subset _ _)⟩
  split
  · rw [List.cons_append, plain_cons_iff, List.cons_append, plain_cons_iff, plain_append_iff]
    exact ⟨by decide, by decide, zeros _, plain⟩
  have mark : ∀ point : Int,
      Plain ('e' :: (if 0 < point then ['+'] else []) ++ (toString (point - 1)).toList) := by
    intro point
    rw [plain_append_iff, plain_cons_iff]
    refine ⟨⟨by decide, ?_⟩, plain_toString_int _⟩
    split <;> decide
  split
  · rw [plain_cons_iff] at plain ⊢
    exact ⟨plain.1, mark _⟩
  · rw [plain_cons_iff] at plain
    rw [List.cons_append, plain_cons_iff, List.cons_append, plain_cons_iff, plain_append_iff]
    exact ⟨plain.1, by decide, plain.2, mark _⟩
  · exact mark _

theorem plain_writeDouble (value : Float) : Plain (writeDouble value) := by
  have sign : Plain (if value.toBits.toNat < 9223372036854775808 then [] else ['-']) := by
    split <;> decide
  unfold writeDouble
  simp only
  split
  · rw [plain_append_iff]
    exact ⟨sign, by decide⟩
  · rw [plain_append_iff]
    exact ⟨sign, plain_layout (plain_toDigits _) _⟩

theorem plain_write (number : Number) : Plain number.write := by
  cases number with
  | integer value => exact plain_toString_int value
  | double value => exact plain_writeDouble value

end Number

/-! ## Strings -/

theorem hexDigit_ne_escape (n : Nat) : hexDigit n ≠ escape := by
  have small : ∀ digit < 16, Nat.digitChar digit ≠ escape := by decide
  exact small (n % 16) (Nat.mod_lt n (by decide))

/-- The escape character is a control character, and these are written with a backslash. -/
theorem plain_writeChar (c : Char) : Plain (writeChar c) := by
  unfold writeChar
  -- Seven characters have a short escape each.
  iterate 7 (split; decide)
  split
  · simp only [plain_cons_iff]
    exact ⟨by decide, by decide, by decide, by decide, hexDigit_ne_escape _,
      hexDigit_ne_escape _, by decide⟩
  · rename_i printable
    rw [plain_cons_iff]
    refine ⟨?_, by decide⟩
    rintro rfl
    exact printable (by decide)

theorem plain_writeString (text : String) : Plain (writeString text) := by
  rw [writeString, List.cons_append, plain_cons_iff, plain_append_iff]
  refine ⟨by decide, fun mem => ?_, by decide⟩
  rcases List.mem_flatMap.mp mem with ⟨c, -, written⟩
  exact plain_writeChar c written

/-! ## Values -/

theorem plain_writeBool (value : Bool) : Plain (writeBool value) := by
  cases value <;> decide

section Values

variable {layout : Layout} (blank : layout.Blank)
include blank

theorem Layout.Blank.plain_gap (level : Nat) : Plain (layout.gap level) := by
  intro mem
  cases blank.gap level escape mem

theorem Layout.Blank.plain_space : Plain layout.space := by
  intro mem
  cases blank.space escape mem

theorem plain_item (level : Nat) {item : List Char} (plain : Plain item) :
    Plain (layout.gap level ++ item) := by
  rw [plain_append_iff]
  exact ⟨blank.plain_gap level, plain⟩

theorem plain_field (name : String) (level : Nat) {value : List Char} (plain : Plain value) :
    Plain (layout.gap level ++ (writeString name ++ ':' :: (layout.space ++ value))) := by
  apply plain_item blank
  rw [plain_append_iff, plain_cons_iff, plain_append_iff]
  exact ⟨plain_writeString name, by decide, blank.plain_space, plain⟩

mutual

/-- The text of a value brings no escape character in front of what follows,
whatever strings it holds. -/
theorem plain_writeBefore (value : Json) (level : Nat) {rest : List Char} (plain : Plain rest) :
    Plain (writeBefore layout level rest value) := by
  cases value with
  | null =>
      rw [writeBefore, plain_append_iff]
      exact ⟨by decide, plain⟩
  | bool value =>
      rw [writeBefore, plain_append_iff]
      exact ⟨plain_writeBool value, plain⟩
  | number value =>
      rw [writeBefore, plain_append_iff]
      exact ⟨value.plain_write, plain⟩
  | string value =>
      rw [writeBefore, plain_append_iff]
      exact ⟨plain_writeString value, plain⟩
  | array items =>
      cases items with
      | nil =>
          rw [writeBefore, plain_cons_iff, plain_cons_iff]
          exact ⟨by decide, by decide, plain⟩
      | cons item items =>
          have later := plain_writeItems items level plain
          have first := plain_writeBefore item (level + 1) later
          rw [writeBefore, plain_cons_iff]
          exact ⟨by decide, plain_item blank (level + 1) first⟩
  | object fields =>
      cases fields with
      | nil =>
          rw [writeBefore, plain_cons_iff, plain_cons_iff]
          exact ⟨by decide, by decide, plain⟩
      | cons field fields =>
          rcases field with ⟨name, value⟩
          have later := plain_writeFields fields level plain
          have first := plain_writeBefore value (level + 1) later
          rw [writeBefore, plain_cons_iff]
          exact ⟨by decide, plain_field blank name (level + 1) first⟩

theorem plain_writeItems (items : List Json) (level : Nat) {rest : List Char}
    (plain : Plain rest) : Plain (writeItems layout level rest items) := by
  cases items with
  | nil =>
      rw [writeItems]
      exact plain_item blank level (plain_cons_iff.mpr ⟨by decide, plain⟩)
  | cons item items =>
      have later := plain_writeItems items level plain
      have first := plain_writeBefore item (level + 1) later
      rw [writeItems, plain_cons_iff]
      exact ⟨by decide, plain_item blank (level + 1) first⟩

theorem plain_writeFields (fields : List (String × Json)) (level : Nat) {rest : List Char}
    (plain : Plain rest) : Plain (writeFields layout level rest fields) := by
  cases fields with
  | nil =>
      rw [writeFields]
      exact plain_item blank level (plain_cons_iff.mpr ⟨by decide, plain⟩)
  | cons field fields =>
      rcases field with ⟨name, value⟩
      have later := plain_writeFields fields level plain
      have first := plain_writeBefore value (level + 1) later
      rw [writeFields, plain_cons_iff]
      exact ⟨by decide, plain_field blank name (level + 1) first⟩

end

end Values

theorem plain_compact (value : Json) : Plain value.compact.toList := by
  rw [compact, String.toList_ofList]
  exact plain_writeBefore Layout.compact_blank value 0 (by decide)

/-! ## The texts of a value -/

mutual

/-- The strings and the names of fields in a value, at any depth. -/
def texts : Json → List String
  | .string value => [value]
  | .array items => itemTexts items
  | .object fields => fieldTexts fields
  | _ => []

/-- The texts of the items. -/
def itemTexts : List Json → List String
  | [] => []
  | item :: items => item.texts ++ itemTexts items

/-- The names and the texts of the fields. -/
def fieldTexts : List (String × Json) → List String
  | [] => []
  | (name, value) :: fields => name :: (value.texts ++ fieldTexts fields)

end

/-- The texts of the value of a field are among those of all fields. -/
theorem texts_subset_of_get? {fields : Fields} {name : String} {value : Json}
    (found : fields.get? name = some value) : value.texts ⊆ fieldTexts fields := by
  induction fields with
  | nil => cases found
  | cons field fields ih =>
      rcases field with ⟨first, kept⟩
      rw [NameMap.get?_cons] at found
      intro text mem
      rw [fieldTexts]
      split at found
      · cases found
        exact List.mem_cons_of_mem first (List.mem_append_left _ mem)
      · exact List.mem_cons_of_mem first (List.mem_append_right _ (ih found mem))

end MarkupLint.Json
