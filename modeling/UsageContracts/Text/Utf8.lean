import UsageContracts.Text.Numeral

/-!
# Text in UTF-8

Bytes are read as UTF-8, one after the other.  Where they are not, either the
longest run that could begin a character is replaced as a whole, and a byte that
could not is replaced by itself; or the text is refused, with the place of the
first such run.
-/

namespace UsageContracts

/-! ## Faults -/

/-- What is wrong with a run of bytes. -/
inductive Utf8Problem
  | startByte
  | continuationByte
  | endOfData
deriving DecidableEq

/-- The wording of a problem. -/
def Utf8Problem.message : Utf8Problem → Text
  | .startByte => "invalid start byte"
  | .continuationByte => "invalid continuation byte"
  | .endOfData => "unexpected end of data"

/-- Why bytes are not UTF-8: a run of them from an index on. -/
structure Utf8Fault where
  problem : Utf8Problem
  start : Nat
  run : List UInt8
deriving DecidableEq

/-- The wording of a fault. -/
def Utf8Fault.message (fault : Utf8Fault) : Text :=
  let place : Text :=
    match fault.run with
    | [byte] =>
        "byte 0x" ++ Text.hexadecimal 2 byte.toNat ++ " in position " ++ Text.decimal fault.start
    | run =>
        "bytes in position " ++ Text.decimal fault.start ++ "-" ++
          Text.decimal (fault.start + run.length - 1)
  "'utf-8' codec can't decode " ++ place ++ ": " ++ fault.problem.message

namespace Text

/-! ## Bytes -/

/-- A range of bytes. -/
structure ByteRange where
  first : Nat
  last : Nat

namespace ByteRange

/-- Whether a byte is in a range. -/
def contains (range : ByteRange) (byte : UInt8) : Bool :=
  range.first ≤ byte.toNat && byte.toNat ≤ range.last

end ByteRange

/-- The bytes that go on with a character. -/
def continuation : ByteRange :=
  { first := 0x80, last := 0xBF }

/-- What the first byte of a character tells: the bits of the number that it
holds, and the ranges of the bytes that follow.  Halves of surrogate pairs are
written like characters, but they may have to be kept out. -/
def leadingByte? (takesHalves : Bool) (byte : UInt8) : Option (Nat × List ByteRange) :=
  let value := byte.toNat
  if value < 0x80 then some (value, [])
  else if value < 0xC2 then none
  else if value < 0xE0 then some (value - 0xC0, [continuation])
  else if value = 0xE0 then some (0, [{ first := 0xA0, last := 0xBF }, continuation])
  else if value = 0xED ∧ !takesHalves then
    some (0xD, [{ first := 0x80, last := 0x9F }, continuation])
  else if value < 0xF0 then some (value - 0xE0, [continuation, continuation])
  else if value = 0xF0 then
    some (0, [{ first := 0x90, last := 0xBF }, continuation, continuation])
  else if value < 0xF4 then some (value - 0xF0, [continuation, continuation, continuation])
  else if value = 0xF4 then
    some (4, [{ first := 0x80, last := 0x8F }, continuation, continuation])
  else none

/-- The code point that stands for bytes that are not UTF-8. -/
def replacement : CodePoint := '\uFFFD'

/-- The code point with a number that bytes write. -/
def writtenPoint (number : Nat) : CodePoint :=
  (CodePoint.ofNumber? number).getD replacement

/-! ## Reading -/

/-- A character that is being read: the bits of its number so far, its bytes so
far, the last one first, and the ranges of the bytes that are still missing.
Nothing is missing between characters. -/
structure Utf8State where
  number : Nat := 0
  passed : List UInt8 := []
  expected : List ByteRange := []

/-- What a byte makes of the character that is being read. -/
inductive Utf8Step
  | point (point : CodePoint)
  | more (state : Utf8State)
  | invalid (problem : Utf8Problem)

namespace Utf8State

/-- Read a byte. -/
def read (takesHalves : Bool) (state : Utf8State) (byte : UInt8) : Utf8Step :=
  match state.expected with
  | [] =>
      match leadingByte? takesHalves byte with
      | none => .invalid .startByte
      | some (number, []) => .point (writtenPoint number)
      | some (number, expected) => .more { number, passed := [byte], expected }
  | range :: expected =>
      if range.contains byte then
        let number := state.number * 0x40 + byte.toNat % 0x40
        if expected.isEmpty then
          .point (writtenPoint number)
        else
          .more { number, passed := byte :: state.passed, expected }
      else
        .invalid .continuationByte

/-- Read a byte that may be wrong.  One that does not go on with a character is
looked at again as the first of the next. -/
def readAny (state : Utf8State) (byte : UInt8) : Text × Utf8State :=
  match state.read false byte with
  | .point point => ([point], {})
  | .more next => ([], next)
  | .invalid .startByte => ([replacement], {})
  | .invalid _ =>
      match ({} : Utf8State).read false byte with
      | .point point => ([replacement, point], {})
      | .more next => ([replacement], next)
      | .invalid _ => ([replacement, replacement], {})

end Utf8State

/-- Read bytes up to their end, and replace what is not UTF-8. -/
def ofUtf8From (state : Utf8State) : List UInt8 → Text
  | [] => if state.expected.isEmpty then [] else [replacement]
  | byte :: bytes =>
      let (written, next) := state.readAny byte
      written ++ ofUtf8From next bytes

/-- The text that bytes write in UTF-8, with replacements for what is not. -/
def ofUtf8 (bytes : List UInt8) : Text :=
  ofUtf8From {} bytes

/-- Read bytes that have to be UTF-8 up to their end.  The character that is
being read begins at the index `start`. -/
def readUtf8From (takesHalves : Bool) (start : Nat) (state : Utf8State) :
    List UInt8 → Except Utf8Fault Text
  | [] =>
      if state.expected.isEmpty then .ok []
      else .error { problem := .endOfData, start, run := state.passed.reverse }
  | byte :: bytes =>
      match state.read takesHalves byte with
      | .point point =>
          (point :: ·) <$> readUtf8From takesHalves (start + state.passed.length + 1) {} bytes
      | .more next => readUtf8From takesHalves start next bytes
      | .invalid .startByte => .error { problem := .startByte, start, run := [byte] }
      | .invalid problem => .error { problem, start, run := state.passed.reverse }

/-- The text that bytes write in UTF-8. -/
def readUtf8 (takesHalves : Bool) (bytes : List UInt8) : Except Utf8Fault Text :=
  readUtf8From takesHalves 0 {} bytes

end Text

end UsageContracts
