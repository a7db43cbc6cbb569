/-!
# Code points and texts

A text is a sequence of code points.  A code point is a character or one half
of a surrogate pair: an escape sequence can name such a half on its own, so a
text read from a document may hold halves that no character stands for.
-/

namespace UsageContracts

/-- A character, or a half of a surrogate pair standing alone. -/
inductive CodePoint
  | scalar (value : Char)
  | surrogate (half : Fin 2048)
deriving DecidableEq, Inhabited

/-- A sequence of code points. -/
abbrev Text := List CodePoint

instance : Coe Char CodePoint := ⟨.scalar⟩

namespace CodePoint

/-- The number that the code space gives to a code point. -/
def number : CodePoint → Nat
  | .scalar value => value.toNat
  | .surrogate half => 0xD800 + half

/-- The code point with the given number.  Every number below `0x110000` has
one. -/
def ofNumber? (number : Nat) : Option CodePoint :=
  if high : 0xD800 ≤ number ∧ number < 0xE000 then
    some (.surrogate ⟨number - 0xD800, by omega⟩)
  else if number < 0x110000 then
    some (.scalar (Char.ofNat number))
  else
    none

/-- The character of a code point, unless it is a surrogate half. -/
def character? : CodePoint → Option Char
  | .scalar value => some value
  | .surrogate _ => none

/-- Whether a code point belongs to the first 128, those of ASCII. -/
def isAscii (point : CodePoint) : Bool :=
  point.number < 0x80

end CodePoint

namespace Text

/-- The text of a list of characters. -/
def ofCharacters (characters : List Char) : Text :=
  characters.map .scalar

/-- The text of a string literal or of other text without surrogate halves. -/
def ofString (string : String) : Text :=
  ofCharacters string.toList

instance : Coe String Text := ⟨ofString⟩

/-- The characters of a text, unless it holds a surrogate half. -/
def characters? (text : Text) : Option (List Char) :=
  text.mapM CodePoint.character?

/-- The string of a text; the replacement character stands for each surrogate
half. -/
def toString (text : Text) : String :=
  String.ofList (text.map fun point => point.character?.getD '\uFFFD')

/-- The parts of a text between the occurrences of a separating code point.
There is always one part more than there are occurrences. -/
def splitOn (separator : CodePoint) : Text → List Text
  | [] => [[]]
  | point :: rest =>
      if point = separator then
        [] :: splitOn separator rest
      else
        match splitOn separator rest with
        | [] => [[point]]
        | part :: parts => (point :: part) :: parts

/-- What follows the last occurrence of a separating code point in a text.  A text
in which it does not occur stays as it is. -/
def afterLast (text : Text) (separator : CodePoint) : Text :=
  (text.reverse.takeWhile (· ≠ separator)).reverse

/-- Texts written one after the other, with a separator between neighbours. -/
def join (separator : Text) : List Text → Text
  | [] => []
  | [part] => part
  | part :: next :: parts => part ++ separator ++ join separator (next :: parts)

end Text

end UsageContracts
