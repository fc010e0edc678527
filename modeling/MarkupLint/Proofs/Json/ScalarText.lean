import MarkupLint.Json.Lexeme
import MarkupLint.Json.Writer

/-!
# Reading back strings and integers

The characters of a string are escaped one by one, and reading undoes one escape after the other.
The digits of an integer are read back as the same integer if it has no more than 64 bits and if
what follows does not go on with the number.
-/

namespace MarkupLint.Json

/-! ## Strings -/

theorem hexValue?_hexDigit (n : Nat) : hexValue? (hexDigit n) = some (n % 16) := by
  have small : ∀ digit < 16, hexValue? (Nat.digitChar digit) = some digit := by decide
  exact small (n % 16) (Nat.mod_lt n (by decide))

/-- Four hexadecimal digits stand for a control character. -/
theorem readCodePoint_control {c : Char} (control : c.toNat < 0x20) (rest : List Char) :
    readCodePoint ('0' :: '0' :: hexDigit (c.toNat / 16) :: hexDigit c.toNat :: rest) =
      some (c, rest) := by
  have zero : hexValue? '0' = some 0 := rfl
  have unit : ((0 * 16 + 0) * 16 + c.toNat / 16 % 16) * 16 + c.toNat % 16 = c.toNat := by omega
  have read : readUnit ('0' :: '0' :: hexDigit (c.toNat / 16) :: hexDigit c.toNat :: rest) =
      some (c.toNat, rest) := by
    simp only [readUnit, zero, hexValue?_hexDigit, bind, pure, Option.bind_some, unit]
  have notTrailing : isTrailingUnit c.toNat = false := by
    simp only [isTrailingUnit, Bool.and_eq_false_iff, decide_eq_false_iff_not]
    omega
  have notLeading : isLeadingUnit c.toNat = false := by
    simp only [isLeadingUnit, Bool.and_eq_false_iff, decide_eq_false_iff_not]
    omega
  simp [readCodePoint, read, notTrailing, notLeading]

theorem readString_escape {found chars after : List Char} {escaped : Char}
    (read : readEscape chars = some (escaped, after)) :
    readString found ('\\' :: chars) = readString (escaped :: found) after := by
  rw [readString, if_neg (by decide), if_pos rfl]
  split
  · rename_i same
    rw [read] at same
    cases same
    rfl
  · rename_i none
    rw [read] at none
    cases none

theorem readString_plain {found rest : List Char} {c : Char} (notQuote : c ≠ '"')
    (notEscape : c ≠ '\\') (printable : ¬ c.toNat < 0x20) :
    readString found (c :: rest) = readString (c :: found) rest := by
  rw [readString, if_neg notQuote, if_neg notEscape, if_neg printable]

/-- Reading undoes the writing of one character. -/
theorem readString_writeChar (c : Char) (found rest : List Char) :
    readString found (writeChar c ++ rest) = readString (c :: found) rest := by
  unfold writeChar
  -- the escapes with a letter or with the character itself
  iterate 7
    split
    · rename_i same
      subst same
      exact readString_escape rfl
  split
  · rename_i control
    exact readString_escape (readCodePoint_control control rest)
  · rename_i printable
    exact readString_plain ‹c ≠ '"'› ‹c ≠ '\\'› printable

/-- Reading undoes the writing of a string, character by character. -/
theorem readString_flatMap_writeChar (chars found rest : List Char) :
    readString found (chars.flatMap writeChar ++ '"' :: rest) =
      some (String.ofList (found.reverse ++ chars), rest) := by
  induction chars generalizing found with
  | nil => simp [readString]
  | cons c chars ih =>
      rw [List.flatMap_cons, List.append_assoc, readString_writeChar, ih, List.reverse_cons,
        List.append_assoc]
      rfl

theorem readLexeme_writeString (text : String) (rest : List Char) :
    readLexeme (writeString text ++ rest) = some (.text text, rest) := by
  have read := readString_flatMap_writeChar text.toList [] rest
  rw [writeString, List.cons_append, List.cons_append, List.append_assoc, List.singleton_append,
    readLexeme, read]
  simp

/-! ## Integers -/

namespace Number

/-- The number is an integer of 64 bits, with or without a sign. -/
def isWhole : Number → Bool
  | .integer value => -9223372036854775808 ≤ value && value ≤ maxSignificand
  | .double _ => false

/-- What follows does not go on with a number. -/
def EndsNumber (rest : List Char) : Prop :=
  ∀ c ∈ rest.head?, c.isDigit = false ∧ c ≠ '.' ∧ c ≠ 'e' ∧ c ≠ 'E'

theorem digitValue_digitChar {digit : Nat} (small : digit < 10) :
    digitValue (Nat.digitChar digit) = digit := by
  rw [digitValue]
  exact Nat.toNat_digitChar_sub_48_of_lt_ten small

/-- A digit can be appended to a significand that stays within its bound. -/
theorem appendDigits_concat {start value : Nat} {digits : List Char} {c : Char}
    (appended : appendDigits start digits = (value, []))
    (bounded : value * 10 + digitValue c ≤ maxSignificand) :
    appendDigits start (digits ++ [c]) = (value * 10 + digitValue c, []) := by
  induction digits generalizing start with
  | nil =>
      cases appended
      rw [List.nil_append, appendDigits, if_pos bounded, appendDigits]
  | cons digit digits ih =>
      rw [appendDigits] at appended
      rw [List.cons_append, appendDigits]
      split at appended
      · rename_i small
        rw [if_pos small]
        exact ih appended
      · cases appended

/-- The digits of a word make up the word. -/
theorem appendDigits_toDigits {n : Nat} (word : n ≤ maxSignificand) :
    appendDigits 0 (Nat.toDigits 10 n) = (n, []) := by
  induction n using Nat.strongRecOn with
  | ind n ih =>
      rw [Nat.toDigits_eq_if (by decide)]
      split
      · rename_i small
        have value := digitValue_digitChar small
        rw [appendDigits, Nat.zero_mul, Nat.zero_add, value, if_pos word, appendDigits]
      · rename_i large
        have value : n / 10 * 10 + digitValue (Nat.digitChar (n % 10)) = n := by
          rw [digitValue_digitChar (Nat.mod_lt n (by decide))]
          omega
        have front := ih (n / 10) (by omega) (by omega)
        rw [appendDigits_concat front (by rwa [value]), value]

/-- The digits of a number other than zero do not begin with a zero. -/
theorem exists_toDigits_eq_cons {n : Nat} (positive : 0 < n) :
    ∃ digit digits, Nat.toDigits 10 n = digit :: digits ∧ digit ≠ '0' := by
  induction n using Nat.strongRecOn with
  | ind n ih =>
      rw [Nat.toDigits_eq_if (by decide)]
      split
      · refine ⟨_, [], rfl, ?_⟩
        rw [Ne, Nat.digitChar_eq_zero]
        omega
      · rename_i large
        rcases ih (n / 10) (by omega) (by omega) with ⟨digit, digits, front, nonzero⟩
        rw [front]
        exact ⟨digit, digits ++ [_], rfl, nonzero⟩

theorem splitDigits_append {digits rest : List Char} (decimal : ∀ c ∈ digits, c.isDigit = true)
    (ends : ∀ c ∈ rest.head?, c.isDigit = false) :
    splitDigits (digits ++ rest) = (digits, rest) := by
  have stops : rest.takeWhile Char.isDigit = [] ∧ rest.dropWhile Char.isDigit = rest := by
    cases rest with
    | nil => exact ⟨rfl, rfl⟩
    | cons c rest => simp [ends c rfl]
  rw [splitDigits, List.takeWhile_append_of_pos decimal, List.dropWhile_append_of_pos decimal,
    stops.1, stops.2, List.append_nil]

/-- The digits of a number are all that is read of it. -/
theorem readWhole_toDigits (n : Nat) {rest : List Char} (ends : EndsNumber rest) :
    readWhole (Nat.toDigits 10 n ++ rest) = some (Nat.toDigits 10 n, rest) := by
  have decimal : ∀ c ∈ Nat.toDigits 10 n, c.isDigit = true :=
    fun c mem => Nat.isDigit_of_mem_toDigits (by decide) (by decide) mem
  have stops : ∀ c ∈ rest.head?, c.isDigit = false := fun c head => (ends c head).1
  rcases Nat.eq_zero_or_pos n with rfl | positive
  · have none : splitDigits ([] ++ rest) = ([], rest) :=
      splitDigits_append (fun c => (nomatch ·)) stops
    rw [List.nil_append] at none
    simp [Nat.toDigits_zero, readWhole, none]
  · rcases exists_toDigits_eq_cons positive with ⟨digit, digits, front, nonzero⟩
    rw [front] at decimal ⊢
    rcases List.forall_mem_cons.mp decimal with ⟨first, others⟩
    rw [List.cons_append, readWhole, if_neg nonzero, if_pos first, splitDigits_append others stops]

/-- Behind the digits of an integer there is neither a fraction nor an exponent. -/
theorem readParts_toDigits (negative : Bool) (n : Nat) {rest : List Char}
    (ends : EndsNumber rest) :
    readParts negative (Nat.toDigits 10 n ++ rest) =
      some (⟨negative, Nat.toDigits 10 n, none, none⟩, rest) := by
  have fraction : readFraction rest = some (none, rest) := by
    unfold readFraction
    split
    · exact absurd rfl (ends '.' rfl).2.1
    · rfl
  have exponent : readExponent rest = some (none, rest) := by
    cases rest with
    | nil => rfl
    | cons c rest =>
        rw [readExponent, if_neg]
        exact fun mark => mark.elim (ends c rfl).2.2.1 (ends c rfl).2.2.2
  simp only [readParts, readWhole_toDigits n ends, fraction, exponent, bind, pure,
    Option.bind_some]

/-- The digits of a word are read as the word. -/
theorem toNumber?_toDigits {n : Nat} (word : n ≤ maxSignificand) :
    (Parts.mk false (Nat.toDigits 10 n) none none).toNumber? = some (.integer n) := by
  simp [Parts.toNumber?, appendDigits_toDigits word]

/-- Behind a minus, the digits of a number of at most 63 bits are read as its negative. -/
theorem toNumber?_negative_toDigits {n : Nat} (positive : n ≠ 0)
    (bounded : n ≤ 9223372036854775808) :
    (Parts.mk true (Nat.toDigits 10 n) none none).toNumber? = some (.integer (-n)) := by
  have word : n ≤ maxSignificand := Nat.le_trans bounded (by decide)
  simp [Parts.toNumber?, appendDigits_toDigits word, positive, bounded]

theorem exists_digit_toDigits (n : Nat) :
    ∃ digit digits, Nat.toDigits 10 n = digit :: digits ∧ digit.isDigit = true := by
  have some : Nat.toDigits 10 n ≠ [] := Nat.toDigits_ne_nil
  rcases List.exists_cons_of_ne_nil some with ⟨digit, digits, front⟩
  have mem : digit ∈ Nat.toDigits 10 n := front ▸ List.mem_cons_self
  exact ⟨digit, digits, front, Nat.isDigit_of_mem_toDigits (by decide) (by decide) mem⟩

/-- The digits of a number begin with no minus. -/
theorem readSigned_toDigits (n : Nat) (rest : List Char) :
    readSigned (Nat.toDigits 10 n ++ rest) = readParts false (Nat.toDigits 10 n ++ rest) := by
  rcases exists_digit_toDigits n with ⟨digit, digits, front, decimal⟩
  rw [front, List.cons_append]
  unfold readSigned
  split
  · rename_i minus
    rw [(List.cons.inj minus).1] at decimal
    cases decimal
  · rfl

theorem write_ofNat (n : Nat) : (Number.integer (.ofNat n)).write = Nat.toDigits 10 n := by
  change (Nat.repr n).toList = _
  rw [Nat.repr_eq_ofList_toDigits, String.toList_ofList]

theorem write_negSucc (n : Nat) :
    (Number.integer (.negSucc n)).write = '-' :: Nat.toDigits 10 (n + 1) := by
  change ("-" ++ Nat.repr (n + 1)).toList = _
  rw [Nat.repr_eq_ofList_toDigits, String.toList_append, String.toList_ofList,
    String.toList_ofList, List.singleton_append]

/-- An integer is read back. -/
theorem read?_write {number : Number} (whole : number.isWhole = true) {rest : List Char}
    (ends : EndsNumber rest) : read? (number.write ++ rest) = some (number, rest) := by
  cases number with
  | double value => cases whole
  | integer value =>
      simp only [isWhole, Bool.and_eq_true, decide_eq_true_iff] at whole
      rcases value with n | n
      · have word : n ≤ maxSignificand := Int.ofNat_le.mp whole.2
        rw [write_ofNat, read?, readSigned_toDigits, readParts_toDigits false n ends]
        simp [toNumber?_toDigits word]
      · have bounded : n + 1 ≤ 9223372036854775808 := by omega
        rw [write_negSucc, List.cons_append, read?, readSigned,
          readParts_toDigits true (n + 1) ends]
        simp [toNumber?_negative_toDigits (Nat.succ_ne_zero n) bounded, Int.negSucc_eq]

/-- An integer begins with a minus or a digit. -/
theorem exists_write_eq_cons {number : Number} (whole : number.isWhole = true) :
    ∃ c chars, number.write = c :: chars ∧ (c = '-' ∨ c.isDigit = true) := by
  cases number with
  | double value => cases whole
  | integer value =>
      rcases value with n | n
      · rcases exists_digit_toDigits n with ⟨digit, digits, front, decimal⟩
        exact ⟨digit, digits, by rw [write_ofNat, front], Or.inr decimal⟩
      · exact ⟨'-', _, write_negSucc n, Or.inl rfl⟩

end Number

/-- What begins like a number is read as one. -/
theorem readLexeme_of_number {c : Char} (begins : c = '-' ∨ c.isDigit = true) (chars : List Char) :
    readLexeme (c :: chars) =
      (Number.read? (c :: chars)).map fun read => (.scalar (.number read.1), read.2) := by
  unfold readLexeme
  split
  case h_11 => rfl
  all_goals
    rename_i same
    rw [(List.cons.inj same).1] at begins
    rcases begins with minus | decimal
    · cases minus
    · cases decimal

end MarkupLint.Json
