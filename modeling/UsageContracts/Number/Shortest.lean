import UsageContracts.Number.Binary64
import UsageContracts.Text.Numeral

/-!
# Shortest decimal notation

A floating point number is written with the fewest decimal digits that are read
back as the same number.  The numbers that round to it form an interval around
it; on the grid of decimals with a given number of digits the two neighbours of
the number decide whether the grid meets the interval.
-/

namespace UsageContracts

/-- A decimal number `significand * 10 ^ exponent`. -/
structure Decimal where
  significand : Nat
  exponent : Int
deriving DecidableEq

namespace Binary64

/-- The real numbers that round to a positive number, as an interval with
rational ends. -/
structure Interval where
  lower : Rat
  upper : Rat
  /-- Whether the ends belong to the interval. -/
  isClosed : Bool

namespace Interval

/-- Whether a rational number lies in an interval. -/
def contains (interval : Interval) (number : Rat) : Bool :=
  (interval.lower < number && number < interval.upper) ||
    (interval.isClosed && (number == interval.lower || number == interval.upper))

end Interval

/-- The interval that rounds to `significand * 2 ^ exponent`.  It reaches half
way to the neighbours; below a power of two the neighbour is only half as far.
The ends round to the even significand. -/
def roundingInterval (significand : Nat) (exponent : Int) : Interval :=
  let unit := (2 : Rat) ^ exponent
  let below : Rat :=
    if significand = Nat.pow 2 52 ∧ leastExponent < exponent then unit / 4 else unit / 2
  { lower := significand * unit - below
    upper := significand * unit + unit / 2
    isClosed := significand % 2 = 0 }

/-- The power of ten that is at most the number: the exponent `e` with
`10 ^ e ≤ number < 10 ^ (e + 1)`, found from an estimate at or below it. -/
def decimalExponent (number : Rat) : Int :=
  let estimate : Int :=
    (Nat.toDigits 10 number.num.natAbs).length - (Nat.toDigits 10 number.den).length - 1
  if (10 : Rat) ^ (estimate + 1) ≤ number then estimate + 1 else estimate

/-- The decimal on the grid of multiples of `10 ^ exponent` that lies in the
interval, the nearer one if both neighbours of the number do, and the even one
if they are equally near. -/
def nearestOnGrid? (interval : Interval) (number : Rat) (exponent : Int) : Option Decimal :=
  let unit := (10 : Rat) ^ exponent
  let below := (number / unit).floor.toNat
  let above := below + 1
  let lowerHit := interval.contains (below * unit) && 0 < below
  let upperHit := interval.contains (above * unit)
  let downward := number - below * unit
  let upward := above * unit - number
  if lowerHit ∧ (¬upperHit ∨ downward < upward ∨ (downward = upward ∧ below % 2 = 0)) then
    some ⟨below, exponent⟩
  else if upperHit then
    some ⟨above, exponent⟩
  else
    none

/-- The decimal with the fewest digits that rounds to the positive number
`significand * 2 ^ exponent`.  Seventeen digits always suffice. -/
def shortestDecimal (significand : Nat) (exponent : Int) : Decimal :=
  let number := (significand : Rat) * (2 : Rat) ^ exponent
  let interval := roundingInterval significand exponent
  let leading := decimalExponent number
  let grids := (List.range 17).map fun (digits : Nat) => leading - digits
  (grids.findSome? (nearestOnGrid? interval number)).getD ⟨0, 0⟩

/-- A decimal without zeros at the end of its significand. -/
def trimZeros : Nat → Decimal → Decimal
  | 0, decimal => decimal
  | steps + 1, decimal =>
      if decimal.significand % 10 = 0 ∧ 0 < decimal.significand then
        trimZeros steps ⟨decimal.significand / 10, decimal.exponent + 1⟩
      else
        decimal

/-- The text of a positive decimal: positional notation, with at least one
digit on either side of the point, from `10 ^ -4` up to `10 ^ 16`, and
otherwise a significand with an exponent of at least two digits. -/
def decimalText (decimal : Decimal) : Text :=
  let digits := Text.decimal decimal.significand
  let point : Int := digits.length + decimal.exponent
  if -4 < point ∧ point ≤ 16 then
    if point ≤ 0 then
      ("0." : Text) ++ List.replicate (-point).toNat (.scalar '0') ++ digits
    else
      let whole := digits.take point.toNat
      let fraction := digits.drop point.toNat
      Text.padRight point.toNat '0' whole ++ "." ++
        (if fraction.isEmpty then ("0" : Text) else fraction)
  else
    let fraction := digits.drop 1
    let power := point - 1
    let mantissa := digits.take 1 ++ (if fraction.isEmpty then [] else .scalar '.' :: fraction)
    let sign : Text := if power < 0 then "-" else "+"
    mantissa ++ "e" ++ sign ++ Text.paddedDecimal 2 power.natAbs

/-- The text of a floating point number: the shortest decimal that is read back
as the same number. -/
def display : Binary64 → Text
  | .finite negative significand exponent =>
      let sign : Text := if negative then "-" else []
      if significand = 0 then
        sign ++ "0.0"
      else
        sign ++ decimalText (trimZeros 17 (shortestDecimal significand exponent))
  | .infinite negative => if negative then "-inf" else "inf"
  | .nan => "nan"

end Binary64

end UsageContracts
