import UsageContracts.Json.Basic

/-!
# JSON text

A JSON value is written in ASCII, on one line or with a line for each part.
Every other character is written as the escape of its number, in two halves if
the number has more than four hexadecimal digits.
-/

namespace UsageContracts

/-- How JSON text is laid out. -/
inductive Layout
  /-- All on one line. -/
  | compact
  /-- Each part of a collection on a line of its own, after one `unit` for every
  collection around it. -/
  | broken (unit : Text)
deriving DecidableEq

namespace Layout

/-- The beginning of a line inside `depth` collections. -/
def lineBreak (layout : Layout) (depth : Nat) : Text :=
  match layout with
  | .compact => []
  | .broken unit => .scalar '\n' :: (List.replicate depth unit).flatten

/-- What stands between two parts of a collection. -/
def separator (layout : Layout) (depth : Nat) : Text :=
  match layout with
  | .compact => ", "
  | .broken _ => .scalar ',' :: layout.lineBreak depth

end Layout

namespace Json

/-- The escape of a number of at most four hexadecimal digits. -/
def numberEscape (number : Nat) : Text :=
  "\\u" ++ Text.hexadecimal 4 number

/-- How one code point is written inside a JSON string. -/
def escapePoint (point : CodePoint) : Text :=
  if point = '"' then "\\\""
  else if point = '\\' then "\\\\"
  else if point = '\n' then "\\n"
  else if point = '\r' then "\\r"
  else if point = '\t' then "\\t"
  else if point = '\x08' then "\\b"
  else if point = '\x0C' then "\\f"
  else if 0x20 ≤ point.number ∧ point.number < 0x7F then [point]
  else if point.number < 0x10000 then numberEscape point.number
  else
    let offset := point.number - 0x10000
    numberEscape (0xD800 + offset / 0x400) ++ numberEscape (0xDC00 + offset % 0x400)

/-- A text as a JSON string. -/
def quote (text : Text) : Text :=
  .scalar '"' :: text.flatMap escapePoint ++ [.scalar '"']

/-- A floating point number as JSON text. -/
def floatText : Binary64 → Text
  | .infinite negative => if negative then "-Infinity" else "Infinity"
  | .nan => "NaN"
  | number => number.display

mutual

/-- The text of a JSON value that stands inside `depth` collections. -/
def writeAt (layout : Layout) (depth : Nat) : Json → Text
  | .null => "null"
  | .bool value => if value then "true" else "false"
  | .integer value => Text.signedDecimal value
  | .float value => floatText value
  | .text value => quote value
  | .list [] => "[]"
  | .list (item :: items) =>
      .scalar '[' :: layout.lineBreak (depth + 1) ++ writeAt layout (depth + 1) item ++
        writeItems layout (depth + 1) items ++ layout.lineBreak depth ++ [.scalar ']']
  | .object [] => "\x7b\x7d"
  | .object (member :: members) =>
      .scalar '\x7b' :: layout.lineBreak (depth + 1) ++ writeMember layout (depth + 1) member ++
        writeMembers layout (depth + 1) members ++ layout.lineBreak depth ++ [.scalar '\x7d']
termination_by structural json => json

/-- The text of the further items of a list, each after a separator. -/
def writeItems (layout : Layout) (depth : Nat) : List Json → Text
  | [] => []
  | item :: items =>
      layout.separator depth ++ writeAt layout depth item ++ writeItems layout depth items
termination_by structural items => items

/-- The text of the further members of an object, each after a separator. -/
def writeMembers (layout : Layout) (depth : Nat) : List (Text × Json) → Text
  | [] => []
  | member :: members =>
      layout.separator depth ++ writeMember layout depth member ++
        writeMembers layout depth members
termination_by structural members => members

/-- The text of one member of an object. -/
def writeMember (layout : Layout) (depth : Nat) : Text × Json → Text
  | (name, json) => quote name ++ ": " ++ writeAt layout depth json
termination_by structural member => member

end

/-- The text of a JSON value. -/
def write (layout : Layout) (json : Json) : Text :=
  writeAt layout 0 json

end Json

end UsageContracts
