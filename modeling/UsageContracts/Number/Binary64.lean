/-!
# Binary floating point numbers

The floating point numbers with a significand of 53 bits, as exact values.  A
finite number is a significand scaled by a power of two; every operation
computes its exact result first and rounds it once, to the nearest number, and
to the one with the even significand if two are equally near.
-/

namespace UsageContracts

/-- A floating point number with a significand of 53 bits. -/
inductive Binary64
  | finite (negative : Bool) (significand : Nat) (exponent : Int)
  | infinite (negative : Bool)
  | nan
deriving DecidableEq

namespace Binary64

/-- The exponent of the numbers next to zero. -/
def leastExponent : Int := -1074

/-- The exponent of the greatest finite numbers. -/
def greatestExponent : Int := 971

/-- The zero of the given sign. -/
def zero (negative : Bool) : Binary64 :=
  .finite negative 0 leastExponent

/-! ## Rounding -/

/-- The integer nearest to a quotient, the even one of two that are equally
near. -/
def roundedQuotient (numerator denominator : Nat) : Nat :=
  let quotient := numerator / denominator
  let remainder := numerator % denominator
  if denominator < 2 * remainder ∨ (denominator = 2 * remainder ∧ quotient % 2 = 1) then
    quotient + 1
  else
    quotient

/-- Numerator and denominator of the quotient divided by `2 ^ exponent`. -/
def scaledDown (numerator denominator : Nat) (exponent : Int) : Nat × Nat :=
  match exponent with
  | .ofNat power => (numerator, denominator * Nat.pow 2 power)
  | .negSucc power => (numerator * Nat.pow 2 (power + 1), denominator)

/-- The floating point number nearest to a quotient of natural numbers, with
the given sign. -/
def ofRatio (negative : Bool) (numerator denominator : Nat) : Binary64 :=
  if numerator = 0 then
    zero negative
  else
    let guess := max ((numerator.log2 : Int) - denominator.log2 - 52) leastExponent
    let (top, bottom) := scaledDown numerator denominator guess
    let exponent :=
      if top / bottom < Nat.pow 2 52 ∧ leastExponent < guess then guess - 1 else guess
    let (top, bottom) := scaledDown numerator denominator exponent
    let significand := roundedQuotient top bottom
    let (significand, exponent) :=
      if significand = Nat.pow 2 53 then (Nat.pow 2 52, exponent + 1) else (significand, exponent)
    if greatestExponent < exponent then
      .infinite negative
    else if significand = 0 then
      zero negative
    else
      .finite negative significand exponent

/-- The floating point number nearest to a rational number. -/
def ofRat (number : Rat) : Binary64 :=
  ofRatio (decide (number < 0)) number.num.natAbs number.den

/-- The floating point number nearest to `significand * 10 ^ exponent`, with
the given sign.  Numbers too far from one to matter are not scaled. -/
def ofDecimal (negative : Bool) (significand : Nat) (exponent : Int) : Binary64 :=
  let digits := (Nat.toDigits 10 significand).length
  if significand = 0 ∨ digits + exponent < -400 then
    zero negative
  else if 400 < digits + exponent then
    .infinite negative
  else
    match exponent with
    | .ofNat power => ofRatio negative (significand * Nat.pow 10 power) 1
    | .negSucc power => ofRatio negative significand (Nat.pow 10 (power + 1))

/-! ## Values and arithmetic -/

/-- The rational value of a finite number. -/
def value? : Binary64 → Option Rat
  | .finite negative significand exponent =>
      let magnitude := (significand : Rat) * (2 : Rat) ^ exponent
      some (if negative then -magnitude else magnitude)
  | .infinite _ => none
  | .nan => none

/-- The number with the opposite sign. -/
def negate : Binary64 → Binary64
  | .finite negative significand exponent => .finite (!negative) significand exponent
  | .infinite negative => .infinite (!negative)
  | .nan => .nan

/-- Whether the sign of a number is negative. -/
def isNegative : Binary64 → Bool
  | .finite negative _ _ => negative
  | .infinite negative => negative
  | .nan => false

/-- The product of a number and a positive integer that is itself rounded
first. -/
def scale (number : Binary64) (factor : Nat) : Binary64 :=
  match number, (ofRatio false factor 1).value? with
  | .finite negative significand exponent, some factor =>
      let magnitude := (significand : Rat) * (2 : Rat) ^ exponent * factor
      ofRatio negative magnitude.num.natAbs magnitude.den
  | _, _ => number

/-- The sum of two numbers.  Zeros of both signs give the positive zero, and
infinities of both signs have no sum. -/
def add (left right : Binary64) : Binary64 :=
  match left, right with
  | .nan, _ => .nan
  | _, .nan => .nan
  | .infinite leftSign, .infinite rightSign =>
      if leftSign = rightSign then .infinite leftSign else .nan
  | .infinite negative, _ => .infinite negative
  | _, .infinite negative => .infinite negative
  | left, right =>
      let sum := left.value?.getD 0 + right.value?.getD 0
      if sum = 0 then zero (left.isNegative && right.isNegative) else ofRat sum

end Binary64

end UsageContracts
