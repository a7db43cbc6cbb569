import UsageContracts.Number.Binary64
import UsageContracts.Text.Blank
import UsageContracts.Text.Digit
import UsageContracts.Text.Quoted

/-!
# Reading and writing numbers

Integers in positional notation of any base and floating point numbers in
decimal notation.  Digits of all scripts and white space around a numeral are
accepted.  An integer has at most 4300 decimal digits on its way from or to a
decimal numeral.
-/

namespace UsageContracts

/-- Why a text is not read as a number, or a number not written. -/
inductive NumeralFault
  /-- The text is no integer numeral of the base. -/
  | notAnInteger (base : Nat) (text : Text)
  /-- The text is no floating point numeral. -/
  | notANumber (text : Text)
  /-- The decimal numeral has more digits than are read. -/
  | tooLongToRead (digits : Nat)
  /-- The integer has more decimal digits than are written. -/
  | tooLongToWrite
deriving DecidableEq

/-- The greatest number of digits in a decimal integer numeral. -/
def longestInteger : Nat := 4300

namespace NumeralFault

/-- The wording of a fault. -/
def message : NumeralFault → Text
  | .notAnInteger base text =>
      "invalid literal for int() with base " ++ Text.decimal base ++ ": " ++
        (Text.quoted text).take 200
  | .notANumber text =>
      "could not convert string to float: " ++ Text.quoted text
  | .tooLongToRead digits =>
      "Exceeds the limit (" ++ Text.decimal longestInteger ++
        " digits) for integer string conversion: value has " ++ Text.decimal digits ++
        " digits; use sys.set_int_max_str_digits() to increase the limit"
  | .tooLongToWrite =>
      "Exceeds the limit (" ++ Text.decimal longestInteger ++
        " digits) for integer string conversion; " ++
        "use sys.set_int_max_str_digits() to increase the limit"

end NumeralFault

/-- The decimal numeral of an integer, unless it is too long. -/
def integerText (number : Int) : Except NumeralFault Text :=
  if number.natAbs < Nat.pow 10 longestInteger then
    .ok (Text.signedDecimal number)
  else
    .error .tooLongToWrite

namespace Numeral

/-- White space that may stand around a numeral; the ASCII information
separators do not count. -/
def isPadding (point : CodePoint) : Bool :=
  point.isBlank && !(0x1C ≤ point.number && point.number ≤ 0x1F)

/-- The ASCII spelling of a numeral: white space around it is dropped, a digit
of any script becomes the ASCII digit of the same value, and a question mark
stands for whatever else is not ASCII. -/
def asciiSpelling (text : Text) : List Char :=
  let trimmed := ((text.dropWhile isPadding).reverse.dropWhile isPadding).reverse
  trimmed.map fun point =>
    match point.decimalDigit? with
    | some digit => Char.ofNat ('0'.toNat + digit)
    | none => if point.isAscii then point.character?.getD '?' else '?'

/-- The sign at the beginning of a numeral, as "is it negative", and the rest. -/
def splitSign : List Char → Bool × List Char
  | '-' :: rest => (true, rest)
  | '+' :: rest => (false, rest)
  | unsigned => (false, unsigned)

/-- The value of a digit in a base of at most 36. -/
def digitValue? (base : Nat) (digit : Char) : Option Nat :=
  let value? :=
    if digit.isDigit then some (digit.toNat - '0'.toNat)
    else if digit.isLower then some (digit.toNat - 'a'.toNat + 10)
    else if digit.isUpper then some (digit.toNat - 'A'.toNat + 10)
    else none
  value?.filter (· < base)

/-- The number that digits write in a base.  Other characters count as zero. -/
def digitsValue (base : Nat) (digits : List Char) : Nat :=
  digits.foldl (fun number digit => number * base + (digitValue? base digit).getD 0) 0

/-- The letter that, after a zero, announces a base. -/
def baseLetter? : Nat → Option Char
  | 2 => some 'b'
  | 8 => some 'o'
  | 16 => some 'x'
  | _ => none

/-- A numeral without the announcement of its base, such as `0x`.  One
underscore may follow the announcement. -/
def dropBase (base : Nat) : List Char → List Char
  | '0' :: letter :: rest =>
      if baseLetter? base = some letter.toLower then
        match rest with
        | '_' :: digits => digits
        | digits => digits
      else
        '0' :: letter :: rest
  | digits => digits

/-- Whether each underscore stands between two digits. -/
def isWellSeparated : List Char → Bool
  | [] => true
  | ['_'] => false
  | '_' :: '_' :: _ => false
  | _ :: rest => isWellSeparated rest

/-- Read an integer in the given base: a sign, the announcement of the base if
it has one, and digits that single underscores may separate. -/
def readInteger (base : Nat) (text : Text) : Except NumeralFault Int :=
  let (negative, unsigned) := splitSign (asciiSpelling text)
  let body := dropBase base unsigned
  let isDigit := fun character : Char => (digitValue? base character).isSome
  let run := body.takeWhile fun character => isDigit character || character == '_'
  let digits := run.filter isDigit
  let rest := body.drop run.length
  if digits.isEmpty || run.head? == some '_' || !isWellSeparated run then
    .error (.notAnInteger base text)
  else if base = 10 ∧ longestInteger < digits.length then
    .error (.tooLongToRead digits.length)
  else if !rest.isEmpty then
    .error (.notAnInteger base text)
  else
    let number : Int := digitsValue base digits
    .ok (if negative then -number else number)

/-- Read a floating point number without its sign: a name of infinity or of
"not a number", or digits with a decimal point and an exponent. -/
def readUnsigned? (negative : Bool) (spelling : List Char) : Option Binary64 :=
  let name := String.ofList (spelling.map Char.toLower)
  if name = "inf" ∨ name = "infinity" then
    some (.infinite negative)
  else if name = "nan" then
    some .nan
  else
    let whole := spelling.takeWhile Char.isDigit
    let rest := spelling.dropWhile Char.isDigit
    let (fraction, rest) :=
      match rest with
      | '.' :: rest => (rest.takeWhile Char.isDigit, rest.dropWhile Char.isDigit)
      | rest => ([], rest)
    let exponent? : Option Int :=
      match rest with
      | [] => some 0
      | letter :: rest =>
          let (isDown, digits) := splitSign rest
          if letter.toLower = 'e' ∧ !digits.isEmpty ∧ digits.all Char.isDigit then
            let power : Int := digitsValue 10 digits
            some (if isDown then -power else power)
          else
            none
    if whole.isEmpty && fraction.isEmpty then
      none
    else
      exponent?.map fun exponent =>
        .ofDecimal negative (digitsValue 10 (whole ++ fraction)) (exponent - fraction.length)

/-- Read a floating point number in decimal notation, rounded to the nearest. -/
def readFloat (text : Text) : Except NumeralFault Binary64 :=
  let (negative, unsigned) := splitSign (asciiSpelling text)
  match readUnsigned? negative unsigned with
  | some number => .ok number
  | none => .error (.notANumber text)

end Numeral

end UsageContracts
