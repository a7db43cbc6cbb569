import UsageContracts.Document.Scalar
import UsageContracts.Text.LetterCase
import UsageContracts.Yaml.Scalar.Binary
import UsageContracts.Yaml.Tag

/-!
# The values of scalars

A scalar has the value that its content writes according to its tag.
-/

namespace UsageContracts.Yaml

/-- A text without underscores. -/
def dropUnderscores (content : Text) : Text :=
  content.filter (· ≠ '_')

/-- The sign of a numeral, as "is it negative", and the numeral without it. -/
def signOf (numeral : Text) : Except Fault (Bool × Text) :=
  match numeral with
  | [] => .error .emptyNumeral
  | first :: rest =>
      if first = '-' then .ok (true, rest)
      else if first = '+' then .ok (false, rest)
      else .ok (false, numeral)

/-- Read an integer in a base. -/
def integerIn (base : Nat) (numeral : Text) : Except Fault Int :=
  (Numeral.readInteger base numeral).mapError .numeral

/-- The integer that a numeral without sign and underscores writes. -/
def unsignedInteger (numeral : Text) : Except Fault Int :=
  match numeral with
  | [] => .error .emptyNumeral
  | .scalar '0' :: rest =>
      match rest with
      | [] => .ok 0
      | .scalar 'b' :: digits => integerIn 2 digits
      | .scalar 'x' :: digits => integerIn 16 digits
      | _ => integerIn 8 numeral
  | _ =>
      if numeral.contains ':' then do
        let places ← (Text.splitOn ':' numeral).mapM (integerIn 10)
        return places.foldl (fun number place => 60 * number + place) 0
      else
        integerIn 10 numeral

/-- The integer that a content writes. -/
def integerOf (content : Text) : Except Fault Int := do
  let (isNegative, numeral) ← signOf (dropUnderscores content)
  let number ← unsignedInteger numeral
  return if isNegative then -number else number

/-- Read a floating point number in decimal notation. -/
def floatIn (numeral : Text) : Except Fault Binary64 :=
  (Numeral.readFloat numeral).mapError .numeral

/-- The sum of places in base sixty, the last place first. -/
def addPlaces (scale : Nat) (sum : Binary64) : List Binary64 → Except Fault Binary64
  | [] => .ok sum
  | place :: places =>
      if Binary64.ofRatio false scale 1 = .infinite false then
        .error .tooManyPlaces
      else
        addPlaces (60 * scale) (sum.add (place.scale scale)) places

/-- The floating point number that a numeral without sign and underscores
writes. -/
def unsignedFloat (numeral : Text) : Except Fault Binary64 :=
  if numeral = ".inf" then .ok (.infinite false)
  else if numeral = ".nan" then .ok .nan
  else if numeral.contains ':' then do
    let places ← (Text.splitOn ':' numeral).mapM floatIn
    addPlaces 1 (.zero false) places.reverse
  else floatIn numeral

/-- The floating point number that a content writes. -/
def floatOf (content : Text) : Except Fault Binary64 := do
  let (isNegative, numeral) ← signOf (dropUnderscores content).lower
  let number ← unsignedFloat numeral
  return if isNegative then number.negate else number

/-- Whether a content is the literal for what is not a number, with or without a sign. -/
def isNanForm (content : Text) : Bool :=
  match signOf (dropUnderscores content).lower with
  | .ok (_, numeral) => numeral == ".nan"
  | .error _ => false

/-- The truth value that a content names. -/
def truthValueOf (content : Text) : Except Fault Bool :=
  let name := content.lower
  match Form.truthNames.find? fun entry => Text.ofString entry.1 == name with
  | some (_, value) => .ok value
  | none => .error (.truthValue name)

/-- The date or time that a content writes.  A line feed at the end does not
matter. -/
def timestampOf (content : Text) : Except Fault Scalar :=
  let text : Text :=
    if content.getLast? = some (.scalar '\n') then content.dropLast else content
  match text.characters?.bind Form.timestamp? with
  | none => .error .timestamp
  | some parts =>
      let scalar : Except CalendarFault Scalar :=
        match parts.time with
        | none => .date <$> Date.ofParts parts.year parts.month parts.day
        | some time =>
            .moment <$> Moment.ofParts parts.year parts.month parts.day time.hour time.minute
              time.second time.microsecond time.offset
      scalar.mapError .calendar

/-- The bytes that a content writes. -/
def bytesOf (content : Text) : Except Fault (List UInt8) :=
  if content.all CodePoint.isAscii then
    decodeBase64 (content.filterMap CodePoint.character?)
  else
    .error .form

/-- The value of a scalar with the given tag.  The tags of keys with a meaning
of their own give no value. -/
def scalarValue (tag : Tag) (content : Text) : Except Fault Scalar :=
  match tag with
  | .null => .ok .null
  | .bool => .bool <$> truthValueOf content
  | .integer => .integer <$> integerOf content
  | .float => .float <$> floatOf content
  | .binary => .bytes <$> bytesOf content
  | .timestamp => timestampOf content
  | .text => .ok (.text content)
  | _ => .error .form

end UsageContracts.Yaml
