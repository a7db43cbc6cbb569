import UsageContracts.Text.Numeral
import UsageContracts.Text.Printable

/-!
# Quoted texts and bytes

The quoted form shows a text unambiguously on one line: between quotation
marks, with a backslash sequence for each code point that is unprintable or
would be misread.
-/

namespace UsageContracts.Text

/-- The quotation mark around a text: the double one if the text holds a single
one and no double one, and the single one otherwise. -/
def quotationMark (text : Text) : CodePoint :=
  if text.contains '\'' && !text.contains '"' then '"' else '\''

/-- The backslash sequence of a code point by its number, in the shortest of
the three widths that holds the number. -/
def numberEscape (point : CodePoint) : Text :=
  if point.number < 0x100 then
    "\\x" ++ hexadecimal 2 point.number
  else if point.number < 0x10000 then
    "\\u" ++ hexadecimal 4 point.number
  else
    "\\U" ++ hexadecimal 8 point.number

/-- How one code point is written between the given quotation marks. -/
def quotedPoint (mark point : CodePoint) : Text :=
  if point = mark ∨ point = '\\' then ['\\', point]
  else if point = '\n' then "\\n"
  else if point = '\r' then "\\r"
  else if point = '\t' then "\\t"
  else if point.isPrintable then [point]
  else numberEscape point

/-- The quoted form of a text. -/
def quoted (text : Text) : Text :=
  let mark := quotationMark text
  mark :: text.flatMap (quotedPoint mark) ++ [mark]

/-- The quoted form of a sequence of bytes: a `b`, then the bytes between
quotation marks, those of ASCII as characters and the others by number. -/
def quotedBytes (bytes : List UInt8) : Text :=
  let points : Text := bytes.map fun byte => .scalar (Char.ofNat byte.toNat)
  let mark := quotationMark points
  let written := points.flatMap fun point =>
    if point.number < 0x80 then quotedPoint mark point else numberEscape point
  .scalar 'b' :: mark :: written ++ [mark]

end UsageContracts.Text
