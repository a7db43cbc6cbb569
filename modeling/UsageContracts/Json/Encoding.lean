import UsageContracts.Json.Read
import UsageContracts.Text.Utf8

/-!
# The encoding of JSON text

The bytes of JSON text are UTF-8, UTF-16 or UTF-32.  A mark of the byte order at
the beginning tells which of them, and else the zeros among the first bytes do,
as JSON text begins with characters of ASCII.  Halves of surrogate pairs may
stand alone in all of them.
-/

namespace UsageContracts.Json

/-- Which byte of a unit comes first. -/
inductive ByteOrder
  | highestFirst
  | lowestFirst
deriving DecidableEq

/-- How bytes write code points. -/
inductive Encoding
  | utf8
  | utf16 (order : ByteOrder)
  | utf32 (order : ByteOrder)
deriving DecidableEq

/-- The encoding that the zeros among the first bytes tell. -/
def encodingByZeros : List UInt8 → Encoding
  | first :: second :: third :: fourth :: _ =>
      if first = 0 then
        if second = 0 then .utf32 .highestFirst else .utf16 .highestFirst
      else if second = 0 then
        if third = 0 ∧ fourth = 0 then .utf32 .lowestFirst else .utf16 .lowestFirst
      else .utf8
  | [first, second] =>
      if first = 0 then .utf16 .highestFirst
      else if second = 0 then .utf16 .lowestFirst
      else .utf8
  | _ => .utf8

/-- The encoding of bytes, and the bytes without a mark of the byte order. -/
def encodingOf : List UInt8 → Encoding × List UInt8
  | 0x00 :: 0x00 :: 0xFE :: 0xFF :: bytes => (.utf32 .highestFirst, bytes)
  | 0xFF :: 0xFE :: 0x00 :: 0x00 :: bytes => (.utf32 .lowestFirst, bytes)
  | 0xFE :: 0xFF :: bytes => (.utf16 .highestFirst, bytes)
  | 0xFF :: 0xFE :: bytes => (.utf16 .lowestFirst, bytes)
  | 0xEF :: 0xBB :: 0xBF :: bytes => (.utf8, bytes)
  | bytes => (encodingByZeros bytes, bytes)

/-- The number that the bytes of a unit write. -/
def ByteOrder.number (order : ByteOrder) (unit : List UInt8) : Nat :=
  let highestFirst :=
    match order with
    | .highestFirst => unit
    | .lowestFirst => unit.reverse
  highestFirst.foldl (fun number byte => 0x100 * number + byte.toNat) 0

/-- The numbers that units of two bytes write. -/
def numbers16? (order : ByteOrder) : List UInt8 → Option (List Nat)
  | [] => some []
  | first :: second :: bytes => (order.number [first, second] :: ·) <$> numbers16? order bytes
  | _ => none

/-- The numbers that units of four bytes write. -/
def numbers32? (order : ByteOrder) : List UInt8 → Option (List Nat)
  | [] => some []
  | first :: second :: third :: fourth :: bytes =>
      (order.number [first, second, third, fourth] :: ·) <$> numbers32? order bytes
  | _ => none

/-- The text of numbers of sixteen bits.  The two halves of a pair write one code
point. -/
def textOfNumbers : List Nat → Text
  | [] => []
  | [number] => [Text.writtenPoint number]
  | high :: low :: numbers =>
      let pair? := if 0xD800 ≤ high ∧ high < 0xDC00 then joinedPoint? high low else none
      match pair? with
      | some point => point :: textOfNumbers numbers
      | none => Text.writtenPoint high :: textOfNumbers (low :: numbers)

/-- The text that bytes write, if they are in the encoding that they seem to be
in. -/
def decode? (bytes : List UInt8) : Option Text :=
  match encodingOf bytes with
  | (.utf8, bytes) => (Text.readUtf8 true bytes).toOption
  | (.utf16 order, bytes) => (numbers16? order bytes).map textOfNumbers
  | (.utf32 order, bytes) => (numbers32? order bytes).bind (·.mapM CodePoint.ofNumber?)

end UsageContracts.Json
