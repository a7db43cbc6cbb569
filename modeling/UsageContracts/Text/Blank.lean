import UsageContracts.Text.Basic

/-!
# White space

The code points with the white space property, and the removal of white space
around a text.
-/

namespace UsageContracts

/-- Whether a code point is white space: the ASCII separators and control
characters that move the writing position, and the space separators, line
separator and paragraph separator of the whole code space. -/
def CodePoint.isBlank (point : CodePoint) : Bool :=
  let number := point.number
  (0x09 ≤ number && number ≤ 0x0D) || (0x1C ≤ number && number ≤ 0x20) ||
    number == 0x85 || number == 0xA0 || number == 0x1680 ||
    (0x2000 ≤ number && number ≤ 0x200A) || number == 0x2028 || number == 0x2029 ||
    number == 0x202F || number == 0x205F || number == 0x3000

namespace Text

/-- A text without the white space at its beginning. -/
def trimLeft (text : Text) : Text :=
  text.dropWhile CodePoint.isBlank

/-- A text without the white space at its end. -/
def trimRight (text : Text) : Text :=
  (text.reverse.dropWhile CodePoint.isBlank).reverse

/-- A text without the white space around it. -/
def trim (text : Text) : Text :=
  trimRight (trimLeft text)

end Text

end UsageContracts
