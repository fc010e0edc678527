import MarkupLint.Json.Lexeme
import MarkupLint.Json.Value

/-!
# The values of plain YAML scalars

A plain scalar is null, a truth value, a number or a text. Digits behind a
leading zero are a text. An integer that needs more than 64 bits but not more
than 128 has no value; a larger one is a double.
-/

namespace MarkupLint.Yaml

/-- The words for null. -/
def nullWords : List String :=
  ["", "null", "Null", "NULL", "~"]

/-- The words for true. -/
def trueWords : List String :=
  ["true", "True", "TRUE"]

/-- The words for false. -/
def falseWords : List String :=
  ["false", "False", "FALSE"]

/-- The words for numbers that are infinite or none at all; these are read as null. -/
def boundlessWords : List String :=
  [".inf", ".Inf", ".INF", "+.inf", "+.Inf", "+.INF", "-.inf", "-.Inf", "-.INF",
   ".nan", ".NaN", ".NAN"]

/-- The value of a digit below a radix. -/
def digitBelow? (radix : Nat) (c : Char) : Option Nat :=
  (Json.hexValue? c).filter (· < radix)

/-- The value of one digit or more in a radix. -/
def radixNumber? (radix : Nat) (digits : List Char) : Option Nat :=
  if digits.isEmpty then none
  else digits.foldlM (fun value c => do return value * radix + (← digitBelow? radix c)) 0

/-- Whether digits start with a zero that nothing but digits follow. -/
def hasLeadingZero (digits : List Char) : Bool :=
  1 < digits.length && digits.head? == some '0' && digits.all Char.isDigit

/-- The value of digits, with the mark of a radix in front or in decimal. -/
def magnitude? : List Char → Option Nat
  | '0' :: 'x' :: digits => radixNumber? 16 digits
  | '0' :: 'o' :: digits => radixNumber? 8 digits
  | '0' :: 'b' :: digits => radixNumber? 2 digits
  | digits => if hasLeadingZero digits then none else radixNumber? 10 digits

/-- The integer that a scalar is written as. -/
def integer? : List Char → Option Int
  | '+' :: digits => (magnitude? digits).map Int.ofNat
  | '-' :: digits => (magnitude? digits).map fun value => -(value : Int)
  | digits => (magnitude? digits).map Int.ofNat

/-- The double nearest to `digits` times a power of ten, if it is finite.
Exponents far out of range are not computed. -/
def nearestDouble? (digits : List Char) (exponent : Int) : Option Float :=
  let significand := Json.Number.digitsValue digits
  if significand = 0 then some 0
  else
    let size := ((Nat.toDigits 10 significand).length : Int) + exponent
    if 310 < size then none
    else if size < -400 then some 0
    else
      let value := Float.ofScientific significand (exponent < 0) exponent.natAbs
      if value.isInf then none else some value

/-- Reads digits with a point among them or at either end. -/
def readDecimal (chars : List Char) : Option (List Char × Nat × List Char) :=
  let (whole, rest) := Json.Number.splitDigits chars
  let (fraction, rest) :=
    match rest with
    | '.' :: after => Json.Number.splitDigits after
    | _ => ([], rest)
  if whole.isEmpty && fraction.isEmpty then none
  else some (whole ++ fraction, fraction.length, rest)

/-- The double that a scalar without a sign is written as. -/
def unsignedDouble? (chars : List Char) : Option Float := do
  let (digits, places, rest) ← readDecimal chars
  let (exponent, rest) ← Json.Number.readExponent rest
  let shift : Int :=
    match exponent with
    | some (negative, digits) =>
        let value := (Json.Number.digitsValue digits : Int)
        if negative then -value else value
    | none => 0
  if rest.isEmpty then nearestDouble? digits (shift - places) else none

/-- The double that a scalar is written as, if it is finite. -/
def double? : List Char → Option Float
  | '+' :: chars => unsignedDouble? chars
  | '-' :: chars => (unsignedDouble? chars).map fun value => -value
  | chars => unsignedDouble? chars

/-- Whether a scalar is a text though it looks like a number. -/
def isPaddedNumber : List Char → Bool
  | '+' :: digits => hasLeadingZero digits
  | '-' :: digits => hasLeadingZero digits
  | digits => hasLeadingZero digits

/-- The value of a plain scalar that is a double or a text. -/
def doubleOrText (text : String) : Json :=
  if isPaddedNumber text.toList then .string text
  else
    match double? text.toList with
    | some value => .number (.double value)
    | none => .string text

/-- A power of two. -/
def power (exponent : Nat) : Int :=
  Int.ofNat (Nat.pow 2 exponent)

/-- The value of a plain scalar; an integer of more than 64 and not more than 128 bits has none. -/
def plainValue? (text : String) : Option Json :=
  if nullWords.contains text || boundlessWords.contains text then some .null
  else if trueWords.contains text then some (.bool true)
  else if falseWords.contains text then some (.bool false)
  else
    match integer? text.toList with
    | some value =>
        if -power 63 ≤ value ∧ value < power 64 then some (.number (.integer value))
        else if -power 127 ≤ value ∧ value < power 128 then none
        else some (doubleOrText text)
    | none => some (doubleOrText text)

end MarkupLint.Yaml
