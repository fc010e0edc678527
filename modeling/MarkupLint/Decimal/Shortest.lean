/-!
# The shortest decimal of a double

Among the decimals that read back as a given double, `shortest` picks one with the
fewest digits, and of those the nearest; of two equally near ones the one with an even
last digit. The search is exact: a positive double is a whole number times a power of
two, the decimals that read back as it form an interval around it, and for one digit,
two digits and so on the two neighbours of the double on that grid are tested.
-/

namespace MarkupLint.Decimal

/-- A decimal `digits * 10 ^ exponent`. -/
structure Numeral where
  digits : Nat
  exponent : Int
deriving DecidableEq, Repr, Inhabited

/-- The magnitude of a finite double: `mantissa * 2 ^ exponent`. The neighbour below is nearer
than the one above exactly if `narrow` holds. -/
structure Binary where
  mantissa : Nat
  exponent : Int
  narrow : Bool
deriving DecidableEq, Repr, Inhabited

/-- The number of values of the stored fraction of a double, two to the power of 52. -/
def fractionRange : Nat :=
  4503599627370496

/-- The magnitude that the bits of a finite double stand for. -/
def Binary.ofBits (bits : UInt64) : Binary :=
  let fraction : Nat := bits.toNat % fractionRange
  let scale : Nat := bits.toNat / fractionRange % 2048
  if scale = 0 then ⟨fraction, -1074, false⟩
  else ⟨fractionRange + fraction, (scale : Int) - 1075, fraction = 0 && scale ≠ 1⟩

/-- The number of decimal digits of a number; zero has none. -/
def digitCount (n : Nat) : Nat :=
  if n = 0 then 0 else (Nat.toDigits 10 n).length

/-- The decimals that read back as a magnitude, measured in a unit in which
all numbers are whole: those between `low` and `high`, both included exactly
if `closed` holds. The magnitude itself is `center`. -/
structure Interval where
  low : Nat
  center : Nat
  high : Nat
  unit : Nat
  closed : Bool
deriving Repr

/-- The interval of a magnitude, with `10 ^ exponent` as the unit of the decimals looked for. -/
def Binary.interval (binary : Binary) (exponent : Int) : Interval :=
  let quarter := binary.exponent - 2
  let scale := Nat.pow 2 quarter.toNat * Nat.pow 10 (-exponent).toNat
  { low := (4 * binary.mantissa - (if binary.narrow then 1 else 2)) * scale
    center := 4 * binary.mantissa * scale
    high := (4 * binary.mantissa + 2) * scale
    unit := Nat.pow 2 (-quarter).toNat * Nat.pow 10 exponent.toNat
    closed := binary.mantissa % 2 = 0 }

namespace Interval

/-- Whether a multiple of the unit reads back. -/
def holds (interval : Interval) (digits : Nat) : Bool :=
  let value := digits * interval.unit
  if interval.closed then interval.low ≤ value && value ≤ interval.high
  else interval.low < value && value < interval.high

/-- The multiple of the unit that reads back and is nearest to the magnitude, if there is one. -/
def nearest? (interval : Interval) : Option Nat :=
  let below := interval.center / interval.unit
  let above := below + 1
  let gapBelow := interval.center - below * interval.unit
  let gapAbove := above * interval.unit - interval.center
  let belowFirst := gapBelow < gapAbove || (gapBelow == gapAbove && below % 2 == 0)
  match interval.holds below, interval.holds above with
  | true, true => some (if belowFirst then below else above)
  | true, false => some below
  | false, true => some above
  | false, false => none

end Interval

/-- The exponent of the first decimal digit of a positive magnitude. -/
def Binary.leadingExponent (binary : Binary) : Int :=
  let numerator := binary.mantissa * Nat.pow 2 binary.exponent.toNat
  let denominator := Nat.pow 2 (-binary.exponent).toNat
  if denominator ≤ numerator then (digitCount (numerator / denominator) : Int) - 1
  else -(digitCount ((denominator - 1) / numerator) : Int)

/-- Moves zeros at the end of the digits into the exponent. At most `fuel` zeros are moved. -/
def Numeral.normalize (decimal : Numeral) : Nat → Numeral
  | 0 => decimal
  | fuel + 1 =>
      if decimal.digits ≠ 0 ∧ decimal.digits % 10 = 0 then
        (Numeral.mk (decimal.digits / 10) (decimal.exponent + 1)).normalize fuel
      else decimal

/-- The shortest decimal that reads back as a positive magnitude. Seventeen
digits always suffice. -/
def Binary.shortest (binary : Binary) : Numeral :=
  let leading := binary.leadingExponent
  let found := (List.range 17).findSome? fun (more : Nat) =>
    let exponent := leading - (more : Int)
    (binary.interval exponent).nearest?.map fun digits => Numeral.mk digits exponent
  (found.getD ⟨0, 0⟩).normalize 17

end MarkupLint.Decimal
