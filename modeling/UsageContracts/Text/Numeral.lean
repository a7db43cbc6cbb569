import UsageContracts.Text.Basic

/-!
# Numerals written as text

Decimal and hexadecimal notation of natural numbers, plain or filled up with
zeros to a width.
-/

namespace UsageContracts.Text

/-- Fill a text up on the left to at least `width` code points. -/
def padLeft (width : Nat) (fill : CodePoint) (text : Text) : Text :=
  List.replicate (width - text.length) fill ++ text

/-- Fill a text up on the right to at least `width` code points. -/
def padRight (width : Nat) (fill : CodePoint) (text : Text) : Text :=
  text ++ List.replicate (width - text.length) fill

/-- The decimal numeral of a natural number. -/
def decimal (number : Nat) : Text :=
  ofCharacters (Nat.toDigits 10 number)

/-- The decimal numeral of an integer, with a minus sign if it is negative. -/
def signedDecimal : Int → Text
  | .ofNat number => decimal number
  | .negSucc number => '-' :: decimal (number + 1)

/-- The decimal numeral filled up with zeros to `width` digits. -/
def paddedDecimal (width number : Nat) : Text :=
  padLeft width '0' (decimal number)

/-- The hexadecimal numeral in lower case, filled up with zeros to `width`
digits. -/
def hexadecimal (width number : Nat) : Text :=
  padLeft width '0' (ofCharacters (Nat.toDigits 16 number))

/-- The value of a hexadecimal digit. -/
def hexadecimalDigit? (character : Char) : Option Nat :=
  if '0' ≤ character ∧ character ≤ '9' then some (character.toNat - '0'.toNat)
  else if 'a' ≤ character ∧ character ≤ 'f' then some (character.toNat - 'a'.toNat + 10)
  else if 'A' ≤ character ∧ character ≤ 'F' then some (character.toNat - 'A'.toNat + 10)
  else none

/-- The number that a list of hexadecimal digits writes, or `none` if one of
them is no digit. -/
def hexadecimalNumber? (digits : List Char) : Option Nat :=
  digits.foldlM (fun number digit => (16 * number + ·) <$> hexadecimalDigit? digit) 0

end UsageContracts.Text
