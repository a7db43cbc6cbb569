import UsageContracts.Text.Basic

/-!
# Forms of plain scalars

The forms by which numbers, dates and times, truth values and the null value
are told from other plain scalars.  A form says nothing about values: a date
can have the right form and an impossible month.
-/

namespace UsageContracts.Yaml.Form

/-- Whether a text is made of characters of a class, of which there is at least
one. -/
def isRun (isInClass : Char → Bool) (text : List Char) : Bool :=
  !text.isEmpty && text.all isInClass

/-- A text without the sign it may begin with. -/
def dropSign : List Char → List Char
  | '+' :: rest => rest
  | '-' :: rest => rest
  | text => text

/-- The parts of a text between the occurrences of a character. -/
def partsBetween (separator : Char) : List Char → List (List Char)
  | [] => [[]]
  | character :: rest =>
      if character = separator then
        [] :: partsBetween separator rest
      else
        match partsBetween separator rest with
        | [] => [[character]]
        | part :: parts => (character :: part) :: parts

/-! ## Words -/

/-- Whether a text is a word in lower case, in upper case or with a capital
letter. -/
def isWord (word : String) (text : List Char) : Bool :=
  let small := word.toList
  let capital := small.map Char.toUpper
  text == small || text == capital || text == capital.take 1 ++ small.drop 1

/-- The names of the truth values. -/
def truthNames : List (String × Bool) :=
  [ ("yes", true), ("no", false), ("true", true), ("false", false), ("on", true),
    ("off", false) ]

/-- Whether a text names a truth value. -/
def isTruthValue (text : List Char) : Bool :=
  truthNames.any fun entry => isWord entry.1 text

/-- Whether a text is empty or names the null value. -/
def isNull (text : List Char) : Bool :=
  text.isEmpty || text == ['~'] || isWord "null" text

/-! ## Numbers -/

/-- Whether a character is a digit or an underscore. -/
def isDigitOrUnderscore (character : Char) : Bool :=
  character.isDigit || character == '_'

/-- Whether a text begins with a digit, and not with a zero if `isPositive`
holds, and goes on with digits and underscores. -/
def isDigits (isPositive : Bool) : List Char → Bool
  | [] => false
  | first :: rest =>
      first.isDigit && !(isPositive && first == '0') && rest.all isDigitOrUnderscore

/-- Whether a text is a further place of a number in base sixty: one digit, or
two of which the first is at most five. -/
def isSixtieth : List Char → Bool
  | [unit] => unit.isDigit
  | [ten, unit] => '0' ≤ ten && ten ≤ '5' && unit.isDigit
  | _ => false

/-- Whether a text has the form of an integer in base sixty with several
places. -/
def isSexagesimal (isPositive : Bool) (text : List Char) : Bool :=
  match partsBetween ':' text with
  | first :: second :: others =>
      isDigits isPositive first && (second :: others).all isSixtieth
  | _ => false

/-- Whether a character is a binary digit or an underscore. -/
def isBinary (character : Char) : Bool :=
  character == '0' || character == '1' || character == '_'

/-- Whether a character is an octal digit or an underscore. -/
def isOctal (character : Char) : Bool :=
  ('0' ≤ character && character ≤ '7') || character == '_'

/-- Whether a character is a hexadecimal digit or an underscore. -/
def isHexadecimal (character : Char) : Bool :=
  isDigitOrUnderscore character || ('a' ≤ character && character ≤ 'f') ||
    ('A' ≤ character && character ≤ 'F')

/-- Whether a text has the form of an integer: binary, octal, decimal,
hexadecimal or in base sixty. -/
def isInteger (text : List Char) : Bool :=
  match dropSign text with
  | '0' :: 'b' :: digits => isRun isBinary digits
  | '0' :: 'x' :: digits => isRun isHexadecimal digits
  | '0' :: digits => digits.all isOctal
  | unsigned => isDigits true unsigned || isSexagesimal true unsigned

/-- Whether a text is empty or an exponent with a sign. -/
def isExponentOrEmpty : List Char → Bool
  | [] => true
  | letter :: sign :: digits =>
      (letter == 'e' || letter == 'E') && (sign == '+' || sign == '-') &&
        isRun Char.isDigit digits
  | _ => false

/-- Whether a text has the form of a number with a decimal point: decimal, in
base sixty, without a whole part, or the name of infinity or of "not a
number". -/
def isFloat (text : List Char) : Bool :=
  let unsigned := dropSign text
  let whole := unsigned.takeWhile (· != '.')
  match unsigned.dropWhile (· != '.') with
  | [] => false
  | _ :: fraction =>
      let digits := fraction.takeWhile isDigitOrUnderscore
      let afterDigits := fraction.dropWhile isDigitOrUnderscore
      let isUnsigned := text.head? == some '.'
      (isDigits false whole && isExponentOrEmpty afterDigits) ||
        (isSexagesimal false whole && afterDigits.isEmpty) ||
        (isUnsigned && isDigits false digits && isExponentOrEmpty afterDigits) ||
        (whole.isEmpty && isWord "inf" fraction) ||
        (isUnsigned && ["nan", "NaN", "NAN"].any fun name => fraction == name.toList)

/-! ## Dates and times -/

/-- The number that decimal digits write. -/
def decimalValue (digits : List Char) : Nat :=
  digits.foldl (fun number digit => 10 * number + (digit.toNat - '0'.toNat)) 0

/-- As many digits as the text begins with, though at most `most` and at least
`least`, and the rest. -/
def digits? (least most : Nat) (text : List Char) : Option (List Char × List Char) :=
  let digits := (text.takeWhile Char.isDigit).take most
  if least ≤ digits.length then some (digits, text.drop digits.length) else none

/-- The text after a character that it has to begin with. -/
def after? (character : Char) : List Char → Option (List Char)
  | [] => none
  | first :: rest => if first = character then some rest else none

/-- Whether a character is a space or a tab. -/
def isBlank (character : Char) : Bool :=
  character == ' ' || character == '\t'

/-- What stands between date and time: the letter T or blanks. -/
def afterDate? : List Char → Option (List Char)
  | [] => none
  | first :: rest =>
      if first = 'T' ∨ first = 't' then some rest
      else if isBlank first then some (rest.dropWhile isBlank)
      else none

/-- A time of day as it is written. -/
structure TimeParts where
  hour : Nat
  minute : Nat
  second : Nat
  microsecond : Nat
  /-- The distance from universal time in minutes. -/
  offset : Option Int
deriving DecidableEq

/-- A date as it is written, with the time of day if there is one. -/
structure TimestampParts where
  year : Nat
  month : Nat
  day : Nat
  time : Option TimeParts := none
deriving DecidableEq

/-- The distance from universal time that ends a text; there may be none. -/
def offset? (text : List Char) : Option (Option Int) :=
  match text, text.dropWhile isBlank with
  | [], _ => some none
  | _, ['Z'] => some (some 0)
  | _, sign :: zone => do
      if sign ≠ '+' ∧ sign ≠ '-' then failure
      let (hours, rest) ← digits? 1 2 zone
      let minutes ←
        match rest with
        | [] => some 0
        | rest => do
            let (minutes, rest) ← digits? 2 2 (← after? ':' rest)
            if rest.isEmpty then some (decimalValue minutes) else none
      let distance : Int := (60 * decimalValue hours + minutes : Nat)
      return some (if sign = '-' then -distance else distance)
  | _, [] => none

/-- The microseconds that the digits of a fraction write; digits after the sixth
do not count. -/
def microseconds (digits : List Char) : Nat :=
  let counted := digits.take 6
  decimalValue (counted ++ List.replicate (6 - counted.length) '0')

/-- The time of day that a text writes. -/
def time? (text : List Char) : Option TimeParts := do
  let (hour, rest) ← digits? 1 2 text
  let (minute, rest) ← digits? 2 2 (← after? ':' rest)
  let (second, rest) ← digits? 2 2 (← after? ':' rest)
  let (fraction, rest) :=
    match rest with
    | '.' :: digits => (digits.takeWhile Char.isDigit, digits.dropWhile Char.isDigit)
    | rest => ([], rest)
  let offset ← offset? rest
  return {
    hour := decimalValue hour
    minute := decimalValue minute
    second := decimalValue second
    microsecond := microseconds fraction
    offset }

/-- The date, or date and time, that a text writes.  Month and day have one
digit or two. -/
def timestamp? (text : List Char) : Option TimestampParts := do
  let (year, rest) ← digits? 4 4 text
  let (month, rest) ← digits? 1 2 (← after? '-' rest)
  let (day, rest) ← digits? 1 2 (← after? '-' rest)
  let parts : TimestampParts :=
    { year := decimalValue year, month := decimalValue month, day := decimalValue day }
  if rest.isEmpty then
    return parts
  else
    return { parts with time := some (← time? (← afterDate? rest)) }

/-- Whether a text has the form of a date or time.  A date alone has two digits
each for month and day. -/
def isTimestamp (text : List Char) : Bool :=
  match timestamp? text with
  | none => false
  | some parts => parts.time.isSome || text.length == 10

end UsageContracts.Yaml.Form
