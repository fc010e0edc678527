import MarkupLint.Decimal.Shortest

/-!
# JSON numbers

A number is kept as an integer if it is written as one and fits into 64 bits, with or without a
sign; any other number is a double. The double of a written number is made from a significand of
at most 64 bits, multiplied or divided by a power of ten; digits that do not fit into the
significand are dropped. A double is written with the fewest digits that read back, positionally
for moderate sizes, and always with a point or an exponent.
-/

namespace MarkupLint.Json

/-- A JSON number. -/
inductive Number where
  | integer (value : Int)
  | double (value : Float)
deriving DecidableEq, Repr, Inhabited

namespace Number

/-- Numbers of different kinds differ; doubles are compared as doubles. -/
def same : Number → Number → Bool
  | .integer first, .integer second => first == second
  | .double first, .double second => Float.beq first second
  | _, _ => false

/-- The largest significand. -/
def maxSignificand : Nat :=
  18446744073709551615

/-- The value of a decimal digit. -/
def digitValue (c : Char) : Nat :=
  c.toNat - '0'.toNat

/-- Appends digits to a significand while it stays within its bound; returns
the digits left over. -/
def appendDigits (significand : Nat) : List Char → Nat × List Char
  | [] => (significand, [])
  | c :: rest =>
      if significand * 10 + digitValue c ≤ maxSignificand then
        appendDigits (significand * 10 + digitValue c) rest
      else (significand, c :: rest)

/-- The double nearest to a power of ten. -/
def powerOfTen (exponent : Nat) : Float :=
  Float.ofScientific 1 false exponent

/-- Divides a double by a power of ten, in steps that are doubles themselves. -/
def divideByPower (value : Float) (exponent : Nat) : Float :=
  if exponent ≤ 308 then value / powerOfTen exponent
  else if value == 0 then value
  else divideByPower (value / powerOfTen 308) (exponent - 308)
termination_by exponent
decreasing_by omega

/-- The double of a significand and a decimal exponent, if it is finite. -/
def scale? (significand : Nat) (exponent : Int) : Option Float :=
  let value := Float.ofNat significand
  if 0 ≤ exponent then
    if exponent ≤ 308 then
      let scaled := value * powerOfTen exponent.toNat
      if scaled.isInf then none else some scaled
    else if significand = 0 then some value
    else none
  else some (divideByPower value (-exponent).toNat)

/-- The parts of a written number. -/
structure Parts where
  negative : Bool
  whole : List Char
  fraction : Option (List Char)
  exponent : Option (Bool × List Char)
deriving Repr, Inhabited

/-- The largest exponent that is told apart from a larger one. -/
def maxExponent : Nat :=
  2147483647

/-- The value of digits. -/
def digitsValue (digits : List Char) : Nat :=
  digits.foldl (fun value c => value * 10 + digitValue c) 0

namespace Parts

/-- The significand and the decimal exponent of the digits before the exponent mark. -/
def significand (parts : Parts) : Nat × Int :=
  let (whole, dropped) := appendDigits 0 parts.whole
  match parts.fraction with
  | none => (whole, dropped.length)
  | some fraction =>
      let (value, unused) := appendDigits whole fraction
      (value, (dropped.length : Int) - ((fraction.length : Int) - (unused.length : Int)))

/-- The magnitude of a number written with a fraction, an exponent or too many digits. -/
def magnitude? (parts : Parts) : Option Float :=
  let (significand, exponent) := parts.significand
  match parts.exponent with
  | none => scale? significand exponent
  | some (negative, digits) =>
      let shift := digitsValue digits
      if maxExponent < shift then
        if significand ≠ 0 && !negative then none else some 0
      else scale? significand (if negative then exponent - shift else exponent + shift)

/-- The number that the parts stand for, unless it is too large for a double. -/
def toNumber? (parts : Parts) : Option Number :=
  let (whole, dropped) := appendDigits 0 parts.whole
  let integral := dropped.isEmpty && parts.fraction.isNone && parts.exponent.isNone
  if integral && !parts.negative then some (.integer whole)
  else if integral && whole ≠ 0 && whole ≤ 9223372036854775808 then some (.integer (-whole))
  else
    parts.magnitude?.map fun magnitude =>
      .double (if parts.negative then -magnitude else magnitude)

end Parts

/-- Splits off the digits at the front. -/
def splitDigits (chars : List Char) : List Char × List Char :=
  (chars.takeWhile Char.isDigit, chars.dropWhile Char.isDigit)

/-- Reads the digits of a whole part: a zero alone, or digits that do not start with one. -/
def readWhole : List Char → Option (List Char × List Char)
  | [] => none
  | c :: rest =>
      if c = '0' then
        if (splitDigits rest).1.isEmpty then some ([c], rest) else none
      else if c.isDigit then some (c :: (splitDigits rest).1, (splitDigits rest).2)
      else none

/-- Reads a point and at least one digit, if there is a point. -/
def readFraction : List Char → Option (Option (List Char) × List Char)
  | '.' :: rest =>
      if (splitDigits rest).1.isEmpty then none
      else some (some (splitDigits rest).1, (splitDigits rest).2)
  | chars => some (none, chars)

/-- Reads an optional sign; the answer tells whether it is a minus. -/
def readSign : List Char → Bool × List Char
  | '-' :: rest => (true, rest)
  | '+' :: rest => (false, rest)
  | chars => (false, chars)

/-- Reads an exponent mark, an optional sign and at least one digit, if there is a mark. -/
def readExponent : List Char → Option (Option (Bool × List Char) × List Char)
  | [] => some (none, [])
  | c :: rest =>
      if c = 'e' ∨ c = 'E' then
        let (negative, unsigned) := readSign rest
        if (splitDigits unsigned).1.isEmpty then none
        else some (some (negative, (splitDigits unsigned).1), (splitDigits unsigned).2)
      else some (none, c :: rest)

/-- Reads the parts of a number behind its sign. -/
def readParts (negative : Bool) (chars : List Char) : Option (Parts × List Char) := do
  let (whole, afterWhole) ← readWhole chars
  let (fraction, afterFraction) ← readFraction afterWhole
  let (exponent, rest) ← readExponent afterFraction
  return (⟨negative, whole, fraction, exponent⟩, rest)

/-- Reads an optional minus and the parts behind it. -/
def readSigned : List Char → Option (Parts × List Char)
  | '-' :: unsigned => readParts true unsigned
  | chars => readParts false chars

/-- Reads a number at the front of `chars`. -/
def read? (chars : List Char) : Option (Number × List Char) := do
  let (parts, rest) ← readSigned chars
  let number ← parts.toNumber?
  return (number, rest)

theorem length_splitDigits_le (chars : List Char) : (splitDigits chars).2.length ≤ chars.length :=
  (List.dropWhile_suffix Char.isDigit).length_le

theorem length_readWhole {chars digits rest : List Char}
    (read : readWhole chars = some (digits, rest)) : rest.length < chars.length := by
  unfold readWhole at read
  split at read
  · simp at read
  · rename_i c unread
    have shorter := length_splitDigits_le unread
    split at read
    · split at read
      · simp only [Option.some.injEq, Prod.mk.injEq] at read
        obtain ⟨_, rfl⟩ := read
        simp
      · simp at read
    · split at read
      · simp only [Option.some.injEq, Prod.mk.injEq] at read
        obtain ⟨_, rfl⟩ := read
        simp only [List.length_cons]
        omega
      · simp at read

theorem length_readFraction {chars rest : List Char} {fraction : Option (List Char)}
    (read : readFraction chars = some (fraction, rest)) : rest.length ≤ chars.length := by
  unfold readFraction at read
  split at read
  · rename_i unread
    have shorter := length_splitDigits_le unread
    split at read
    · simp at read
    · simp only [Option.some.injEq, Prod.mk.injEq] at read
      obtain ⟨_, rfl⟩ := read
      simp only [List.length_cons]
      omega
  · simp only [Option.some.injEq, Prod.mk.injEq] at read
    obtain ⟨_, rfl⟩ := read
    exact Nat.le_refl _

theorem length_readSign_le (chars : List Char) : (readSign chars).2.length ≤ chars.length := by
  unfold readSign
  split <;> simp

theorem length_readExponent {chars rest : List Char} {exponent : Option (Bool × List Char)}
    (read : readExponent chars = some (exponent, rest)) : rest.length ≤ chars.length := by
  unfold readExponent at read
  split at read
  · simp only [Option.some.injEq, Prod.mk.injEq] at read
    obtain ⟨_, rfl⟩ := read
    exact Nat.le_refl _
  · rename_i c unread
    split at read
    · have signed := length_readSign_le unread
      have shorter := length_splitDigits_le (readSign unread).2
      simp only at read
      split at read
      · simp at read
      · simp only [Option.some.injEq, Prod.mk.injEq] at read
        obtain ⟨_, rfl⟩ := read
        simp only [List.length_cons]
        omega
    · simp only [Option.some.injEq, Prod.mk.injEq] at read
      obtain ⟨_, rfl⟩ := read
      exact Nat.le_refl _

theorem length_readParts {negative : Bool} {chars rest : List Char} {parts : Parts}
    (read : readParts negative chars = some (parts, rest)) : rest.length < chars.length := by
  simp only [readParts, Option.bind_eq_bind, Option.bind_eq_some_iff, Option.pure_def,
    Option.some.injEq, Prod.mk.injEq] at read
  obtain ⟨⟨whole, first⟩, wholeRead, ⟨fraction, second⟩, fractionRead, ⟨exponent, third⟩,
    exponentRead, _, rfl⟩ := read
  have wholeShorter := length_readWhole wholeRead
  have fractionShorter := length_readFraction fractionRead
  have exponentShorter := length_readExponent exponentRead
  simp only at fractionShorter exponentShorter ⊢
  omega

/-- A number is read from at least one character. -/
theorem length_read? {chars rest : List Char} {number : Number}
    (read : read? chars = some (number, rest)) : rest.length < chars.length := by
  simp only [read?, Option.bind_eq_bind, Option.bind_eq_some_iff, Option.pure_def,
    Option.some.injEq, Prod.mk.injEq] at read
  obtain ⟨⟨parts, after⟩, partsRead, _, _, _, rfl⟩ := read
  unfold readSigned at partsRead
  split at partsRead
  · have shorter := length_readParts partsRead
    simp only [List.length_cons]
    omega
  · exact length_readParts partsRead

/-- The layout of a double: digits with a point for moderate sizes, and otherwise one digit before
the point and an exponent with its sign. `point` is the number of digits before the point. -/
def layout (digits : List Char) (exponent : Int) : List Char :=
  let point := (digits.length : Int) + exponent
  if 0 ≤ exponent ∧ point ≤ 16 then
    digits ++ List.replicate exponent.toNat '0' ++ ['.', '0']
  else if 0 < point ∧ point ≤ 16 then
    digits.take point.toNat ++ '.' :: digits.drop point.toNat
  else if -5 < point ∧ point ≤ 0 then
    '0' :: '.' :: List.replicate (-point).toNat '0' ++ digits
  else
    let sign := if 0 < point then ['+'] else []
    let mark := 'e' :: sign ++ (toString (point - 1)).toList
    match digits with
    | [digit] => digit :: mark
    | first :: rest => first :: '.' :: rest ++ mark
    | [] => mark

/-- The text of a double. -/
def writeDouble (value : Float) : List Char :=
  let bits := value.toBits
  let sign := if bits.toNat < 9223372036854775808 then [] else ['-']
  let binary := Decimal.Binary.ofBits bits
  if binary.mantissa = 0 then sign ++ ['0', '.', '0']
  else
    let decimal := binary.shortest
    sign ++ layout (Nat.toDigits 10 decimal.digits) decimal.exponent

/-- The text of a number. -/
def write : Number → List Char
  | .integer value => (toString value).toList
  | .double value => writeDouble value

/-- The number as an unsigned 64-bit integer, if it is one. -/
def toWord? : Number → Option Nat
  | .integer value => if 0 ≤ value ∧ value ≤ maxSignificand then some value.toNat else none
  | .double _ => none

end Number

end MarkupLint.Json
