/-!
# Characters as bytes

A text is kept as the bytes of its characters. A character below 128 is one
byte, its own code; every byte of another character is 128 or more, so no byte
of it can be taken for a character of the first kind. The bytes also keep the
order: texts compare by their bytes as they do by their characters.
-/

namespace MarkupLint.Text

/-- The bytes of characters, one character behind the other. -/
def utf8Bytes (chars : List Char) : List UInt8 :=
  chars.flatMap String.utf8EncodeChar

@[simp]
theorem utf8Bytes_nil : utf8Bytes [] = [] :=
  rfl

@[simp]
theorem utf8Bytes_cons (c : Char) (chars : List Char) :
    utf8Bytes (c :: chars) = String.utf8EncodeChar c ++ utf8Bytes chars :=
  rfl

@[simp]
theorem utf8Bytes_append (first second : List Char) :
    utf8Bytes (first ++ second) = utf8Bytes first ++ utf8Bytes second :=
  List.flatMap_append

/-- The bytes of a text are those of its characters. -/
theorem toList_data_toUTF8 (text : String) : text.toUTF8.data.toList = utf8Bytes text.toList := by
  rw [String.toUTF8, ← String.utf8Encode_toList, List.utf8Encode, List.data_toByteArray]
  rfl

/-! ## One character -/

theorem utf8EncodeChar_of_lt {c : Char} (small : c.toNat < 0x80) :
    String.utf8EncodeChar c = [UInt8.ofNat c.toNat] := by
  have le : c.val.toNat ≤ 0x7f := Nat.le_of_lt_succ small
  simp only [String.utf8EncodeChar, if_pos le]
  rfl

theorem le_of_mem_utf8EncodeChar {c : Char} (large : 0x80 ≤ c.toNat) {byte : UInt8}
    (mem : byte ∈ String.utf8EncodeChar c) : 0x80 ≤ byte.toNat := by
  have notLe : ¬ c.val.toNat ≤ 0x7f := Nat.not_le.mpr large
  simp only [String.utf8EncodeChar, if_neg notLe] at mem
  split at mem
  · simp only [List.mem_cons, List.not_mem_nil, or_false] at mem
    rcases mem with rfl | rfl <;> rw [UInt8.toNat_ofNat'] <;> omega
  · split at mem
    · simp only [List.mem_cons, List.not_mem_nil, or_false] at mem
      rcases mem with rfl | rfl | rfl <;> rw [UInt8.toNat_ofNat'] <;> omega
    · simp only [List.mem_cons, List.not_mem_nil, or_false] at mem
      rcases mem with rfl | rfl | rfl | rfl <;> rw [UInt8.toNat_ofNat'] <;> omega

/-! ## Order -/

/-- A smaller character has smaller bytes, whatever stands behind them. -/
theorem utf8EncodeChar_append_lt {c d : Char} (less : c < d) (firsts seconds : List UInt8) :
    String.utf8EncodeChar c ++ firsts < String.utf8EncodeChar d ++ seconds := by
  have less : c.val.toNat < d.val.toNat := less
  have bound : d.val.toNat < 0x110000 := by
    rcases d.valid with small | ⟨-, large⟩
    · exact Nat.lt_trans small (by decide)
    · exact large
  have square (n : Nat) : n / 4096 = n / 64 / 64 := by omega
  have cube (n : Nat) : n / 262144 = n / 64 / 64 / 64 := by omega
  simp only [String.utf8EncodeChar]
  generalize c.val.toNat = v at *
  generalize d.val.toNat = w at *
  -- by the number of bytes of each; the first bytes differ, or else the digits behind them decide
  repeat' split
  all_goals
    simp only [List.cons_append, List.nil_append, List.cons_lt_cons_iff, UInt8.lt_iff_toNat_lt,
      ← UInt8.toNat_inj, UInt8.toNat_ofNat', square, cube]
    omega

theorem utf8Bytes_lt {first second : List Char} (less : first < second) :
    utf8Bytes first < utf8Bytes second := by
  induction first generalizing second with
  | nil =>
      cases second with
      | nil => exact absurd less (List.not_lt_nil _)
      | cons d seconds =>
          obtain ⟨byte, bytes, encoded⟩ :=
            List.exists_cons_of_ne_nil (String.utf8EncodeChar_ne_nil (c := d))
          rw [utf8Bytes_cons, encoded]
          exact List.nil_lt_cons _ _
  | cons c firsts ih =>
      cases second with
      | nil => exact absurd less (List.not_lt_nil _)
      | cons d seconds =>
          rw [utf8Bytes_cons, utf8Bytes_cons]
          rcases List.cons_lt_cons_iff.mp less with smaller | ⟨rfl, rest⟩
          · exact utf8EncodeChar_append_lt smaller _ _
          · exact List.append_left_lt (ih rest)

/-- The bytes of a text come before those of another, byte by byte. -/
def ByteLess (first second : String) : Prop :=
  first.toUTF8.data.toList < second.toUTF8.data.toList

/-- Texts compare by their bytes as they do by their characters. -/
theorem byteLess_iff_lt {first second : String} : ByteLess first second ↔ first < second := by
  have forward {first second : String} (less : first < second) : ByteLess first second := by
    rw [ByteLess, toList_data_toUTF8, toList_data_toUTF8]
    exact utf8Bytes_lt less
  refine ⟨?_, forward⟩
  intro byteLess
  apply Decidable.byContradiction
  intro notLess
  by_cases greater : second < first
  · exact List.lt_asymm byteLess (forward greater)
  · obtain rfl := String.le_antisymm (String.not_lt.mp greater) (String.not_lt.mp notLess)
    exact List.lt_irrefl _ byteLess

end MarkupLint.Text
