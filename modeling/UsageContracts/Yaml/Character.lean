/-!
# Characters of YAML text

Which characters a YAML text may hold, and which of them end a line, separate
or indicate something.
-/

namespace UsageContracts.Yaml

/-- Whether a character may stand in a YAML text. -/
def isAllowed (character : Char) : Bool :=
  character == '\t' || character == '\n' || character == '\r' ||
    (' ' ≤ character && character ≤ '~') || character == '\u0085' ||
    ('\u00A0' ≤ character && character ≤ '\uFFFD') || 0x10000 ≤ character.toNat

/-- The mark that can stand at the very beginning of a text. -/
def byteOrderMark : Char := '\uFEFF'

/-- Whether a character ends a line. -/
def isBreak (character : Char) : Bool :=
  character == '\n' || character == '\r' || character == '\u0085' || character == '\u2028' ||
    character == '\u2029'

/-- Whether a character is the carriage return of a line end that a line feed
completes; the two end a line only once. -/
def isHalfBreak (character : Char) (rest : List Char) : Bool :=
  character == '\r' && rest.head? == some '\n'

/-- What a character stands for.  The end of a line stands for a line feed,
unless it is a line separator or a paragraph separator. -/
def readAs (character : Char) : Char :=
  if character = '\r' ∨ character = '\u0085' then '\n' else character

/-- The text after the end of a line, which a character begins. -/
def afterBreak (character : Char) (rest : List Char) : List Char :=
  if isHalfBreak character rest then rest.tail else rest

/-- Whether a character is a space or ends a line. -/
def isSpaceOrBreak (character : Char) : Bool :=
  character == ' ' || isBreak character

/-- Whether a character is a space or a tab or ends a line. -/
def isSeparation (character : Char) : Bool :=
  character == '\t' || isSpaceOrBreak character

/-- Whether the text is at its end or goes on with a character of a class. -/
def endsOr (isInClass : Char → Bool) : List Char → Bool
  | [] => true
  | character :: _ => isInClass character

/-- Whether a line begins with a marker that ends a document: three hyphens or
three dots, and nothing more. -/
def startsWithMarker : List Char → Bool
  | '-' :: '-' :: '-' :: rest => endsOr isSeparation rest
  | '.' :: '.' :: '.' :: rest => endsOr isSeparation rest
  | _ => false

/-- Whether a character can stand in the name of an anchor or of a directive. -/
def isNameCharacter (character : Char) : Bool :=
  character.isAlphanum || character == '-' || character == '_'

end UsageContracts.Yaml
