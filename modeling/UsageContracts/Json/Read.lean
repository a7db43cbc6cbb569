import UsageContracts.Json.Basic

/-!
# Reading JSON text

JSON text is read as JSON demands, but for three names that stand for numbers
which are infinite or not numbers.  A repeated name in an object keeps its
first position and its last value.  A fault of form tells where the text goes
wrong, as the number of code points before that place.
-/

namespace UsageContracts

namespace Json

/-! ## Faults -/

/-- What is wrong with the form of a text. -/
inductive FormProblem
  | noValue
  | noName
  | noColon
  | noComma
  | openString
  | controlCharacter
  | badEscape
  | badNumberEscape
  | moreText
deriving DecidableEq

namespace FormProblem

/-- The wording of a problem. -/
def message : FormProblem → Text
  | .noValue => "Expecting value"
  | .noName => "Expecting property name enclosed in double quotes"
  | .noColon => "Expecting ':' delimiter"
  | .noComma => "Expecting ',' delimiter"
  | .openString => "Unterminated string starting at"
  | .controlCharacter => "Invalid control character at"
  | .badEscape => "Invalid \\escape"
  | .badNumberEscape => "Invalid \\uXXXX escape"
  | .moreText => "Extra data"

end FormProblem

/-- Why a text is not read as JSON.  The place of a problem is given by the
number of code points after it. -/
inductive TextProblem
  | form (problem : FormProblem) (left : Nat)
  | numeral (fault : NumeralFault)
deriving DecidableEq

/-- Why a text is not read as JSON. -/
inductive ReadFault
  | form (problem : FormProblem) (offset : Nat)
  | numeral (fault : NumeralFault)
deriving DecidableEq

/-- What is read at the beginning of a text, and the rest of the text. -/
abbrev Reading (α : Type) := Except TextProblem (α × Text)

/-! ## White space and strings -/

/-- Whether a code point is white space between the parts of JSON. -/
def isSpace (point : CodePoint) : Bool :=
  point = ' ' || point = '\t' || point = '\n' || point = '\r'

/-- The text without the white space at its beginning. -/
def skipSpace (text : Text) : Text :=
  text.dropWhile isSpace

/-- The code point for which a letter after a backslash stands. -/
def escaped? (letter : CodePoint) : Option CodePoint :=
  match letter with
  | .scalar '"' => some '"'
  | .scalar '\\' => some '\\'
  | .scalar '/' => some '/'
  | .scalar 'b' => some '\x08'
  | .scalar 'f' => some '\x0C'
  | .scalar 'n' => some '\n'
  | .scalar 'r' => some '\r'
  | .scalar 't' => some '\t'
  | _ => none

/-- The number that four hexadecimal digits at the beginning of a text write.
Something has to follow them, if only the end of the string. -/
def fourDigits? (text : Text) : Option (Nat × Text) :=
  match text with
  | first :: second :: third :: fourth :: rest =>
      if rest.isEmpty then
        none
      else
        match Text.characters? [first, second, third, fourth] with
        | none => none
        | some digits => (Text.hexadecimalNumber? digits).map (·, rest)
  | _ => none

/-- The code point with a number that two halves of a pair write together. -/
def joinedPoint? (high low : Nat) : Option CodePoint :=
  if 0xDC00 ≤ low ∧ low < 0xE000 then
    CodePoint.ofNumber? (0x10000 + (high - 0xD800) * 0x400 + (low - 0xDC00))
  else
    none

/-- The code point that an escaped number writes, with the rest of the text
after it.  A number that is the first half of a pair is joined with a second
half that is escaped after it. -/
def numberPoint (number : Nat) (rest : Text) : Reading CodePoint :=
  let alone := (CodePoint.ofNumber? number).getD '\uFFFD'
  if 0xD800 ≤ number ∧ number < 0xDC00 ∧ 6 < rest.length then
    match rest with
    | .scalar '\\' :: .scalar 'u' :: digits =>
        match fourDigits? digits with
        | none => .error (.form .badNumberEscape (digits.length + 1))
        | some (low, after) =>
            match joinedPoint? number low with
            | some point => .ok (point, after)
            | none => .ok (alone, rest)
    | _ => .ok (alone, rest)
  else
    .ok (alone, rest)

/-- Read an escape sequence after its backslash. -/
def readEscape (text : Text) : Reading CodePoint :=
  match text with
  | [] => .error (.form .openString 0)
  | .scalar 'u' :: digits =>
      match fourDigits? digits with
      | none => .error (.form .badNumberEscape text.length)
      | some (number, rest) => numberPoint number rest
  | letter :: rest =>
      match escaped? letter with
      | none => .error (.form .badEscape (text.length + 1))
      | some point => .ok (point, rest)

/-- Read the rest of a string whose beginning leaves `start` code points. -/
def readString (start : Nat) : Nat → Text → Reading Text
  | 0, _ => .error (.form .openString start)
  | _ + 1, [] => .error (.form .openString start)
  | steps + 1, point :: rest =>
      if point = '"' then
        .ok ([], rest)
      else if point = '\\' then
        match readEscape rest with
        | .error (.form .openString _) => .error (.form .openString start)
        | .error problem => .error problem
        | .ok (point, rest) =>
            (readString start steps rest).map fun (points, rest) => (point :: points, rest)
      else if point.number < 0x20 then
        .error (.form .controlCharacter (rest.length + 1))
      else
        (readString start steps rest).map fun (points, rest) => (point :: points, rest)

/-- Read a string after its opening quotation mark. -/
def readQuoted (text : Text) : Reading Text :=
  readString (text.length + 1) (text.length + 1) text

/-! ## Numbers and names -/

/-- Whether a code point is a digit of ASCII. -/
def isDigit (point : CodePoint) : Bool :=
  0x30 ≤ point.number && point.number ≤ 0x39

/-- The digits at the beginning of a text, and the rest. -/
def splitDigits (text : Text) : Text × Text :=
  text.span isDigit

/-- The digits of the whole part of a number: a zero, or digits that begin with
another one. -/
def splitWhole (text : Text) : Text × Text :=
  match text with
  | .scalar '0' :: rest => (['0'], rest)
  | _ => splitDigits text

/-- The fraction at the beginning of a text: a point and at least one digit. -/
def splitFraction (text : Text) : Text × Text :=
  match text with
  | .scalar '.' :: rest =>
      let (digits, after) := splitDigits rest
      if digits.isEmpty then ([], text) else (.scalar '.' :: digits, after)
  | _ => ([], text)

/-- The exponent at the beginning of a text: a letter, perhaps a sign, and at
least one digit. -/
def splitExponent (text : Text) : Text × Text :=
  match text with
  | letter :: rest =>
      if letter = 'e' ∨ letter = 'E' then
        let (sign, rest) :=
          match rest with
          | .scalar '+' :: after => ([.scalar '+'], after)
          | .scalar '-' :: after => ([.scalar '-'], after)
          | _ => (([] : Text), rest)
        let (digits, after) := splitDigits rest
        if digits.isEmpty then ([], text) else (letter :: sign ++ digits, after)
      else
        ([], text)
  | [] => ([], [])

/-- Read a number. -/
def readNumber (text : Text) : Reading Json :=
  let (sign, unsigned) :=
    match text with
    | .scalar '-' :: rest => ([.scalar '-'], rest)
    | _ => (([] : Text), text)
  let (whole, rest) := splitWhole unsigned
  let (fraction, rest) := splitFraction rest
  let (exponent, rest) := splitExponent rest
  let spelling : Text := sign ++ whole ++ fraction ++ exponent
  if whole.isEmpty then
    .error (.form .noValue text.length)
  else if fraction.isEmpty && exponent.isEmpty then
    match Numeral.readInteger 10 spelling with
    | .ok number => .ok (.integer number, rest)
    | .error fault => .error (.numeral fault)
  else
    match Numeral.readFloat spelling with
    | .ok number => .ok (.float number, rest)
    | .error fault => .error (.numeral fault)

/-- The values that are written as names. -/
def names : List (Text × Json) :=
  [ ("null", .null), ("true", .bool true), ("false", .bool false), ("NaN", .float .nan),
    ("Infinity", .float (.infinite false)), ("-Infinity", .float (.infinite true)) ]

/-- Read a value that is no string and no collection. -/
def readPlain (text : Text) : Reading Json :=
  match names.find? fun (name, _) => name.isPrefixOf text with
  | some (name, value) => .ok (value, text.drop name.length)
  | none => readNumber text

/-! ## Values -/

/-- Members, of which a repeated name keeps its first position and its last
value. -/
def mergedMembers (members : List (Text × Json)) : List (Text × Json) :=
  mergeEntries (· == ·) members

mutual

/-- Read a value at the beginning of a text, in at most so many steps. -/
def readValue : Nat → Text → Reading Json
  | 0, source => .error (.form .noValue source.length)
  | steps + 1, source =>
      match source with
      | [] => .error (.form .noValue 0)
      | .scalar '"' :: rest => (readQuoted rest).map fun (content, rest) => (.text content, rest)
      | .scalar '[' :: rest =>
          match skipSpace rest with
          | .scalar ']' :: rest => .ok (.list [], rest)
          | rest => (readItems steps rest).map fun (items, rest) => (.list items, rest)
      | .scalar '\x7b' :: rest =>
          match skipSpace rest with
          | .scalar '\x7d' :: rest => .ok (.object [], rest)
          | rest =>
              (readMembers steps rest).map fun (members, rest) =>
                (.object (mergedMembers members), rest)
      | _ => readPlain source

/-- Read the items of a list up to its end. -/
def readItems : Nat → Text → Except TextProblem (List Json × Text)
  | 0, source => .error (.form .noValue source.length)
  | steps + 1, source => do
      let (item, rest) ← readValue steps source
      match skipSpace rest with
      | .scalar ']' :: rest => return ([item], rest)
      | .scalar ',' :: rest =>
          let (items, rest) ← readItems steps (skipSpace rest)
          return (item :: items, rest)
      | rest => throw (.form .noComma rest.length)

/-- Read the members of an object up to its end. -/
def readMembers : Nat → Text → Except TextProblem (List (Text × Json) × Text)
  | 0, source => .error (.form .noName source.length)
  | steps + 1, source =>
      match source with
      | .scalar '"' :: rest => do
          let (name, rest) ← readQuoted rest
          match skipSpace rest with
          | .scalar ':' :: rest =>
              let (value, rest) ← readValue steps (skipSpace rest)
              match skipSpace rest with
              | .scalar '\x7d' :: rest => return ([(name, value)], rest)
              | .scalar ',' :: rest =>
                  let (members, rest) ← readMembers steps (skipSpace rest)
                  return ((name, value) :: members, rest)
              | rest => throw (.form .noComma rest.length)
          | rest => throw (.form .noColon rest.length)
      | _ => .error (.form .noName source.length)

end

/-- Read a text that holds one value and nothing else, with the problem in terms
of the text that is left. -/
def readWhole (text : Text) : Except TextProblem Json := do
  let (json, rest) ← readValue (2 * text.length + 2) (skipSpace text)
  let rest := skipSpace rest
  if rest.isEmpty then return json else throw (.form .moreText rest.length)

/-- Read a text that holds one value and nothing else. -/
def read (text : Text) : Except ReadFault Json :=
  match readWhole text with
  | .ok json => .ok json
  | .error (.form problem left) => .error (.form problem (text.length - left))
  | .error (.numeral fault) => .error (.numeral fault)

end Json

end UsageContracts
