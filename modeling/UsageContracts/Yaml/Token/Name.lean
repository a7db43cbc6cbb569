import UsageContracts.Yaml.Scalar.Block
import UsageContracts.Yaml.Token

/-!
# Names, tags and directives

The parts of a text that name something: anchors and aliases, tags with their
handles, and the directives ahead of a document.
-/

namespace UsageContracts.Yaml

/-! ## Anchors and aliases -/

/-- Read a name of at least one character. -/
def readName (text : List Char) : Except Fault (List Char × List Char) :=
  let name := text.takeWhile isNameCharacter
  if name.isEmpty then .error .form else .ok (name, text.drop name.length)

/-- Whether a character can follow the name of an anchor or an alias. -/
def endsAnchor (character : Char) : Bool :=
  isSeparation character || "?:,]\x7d%@`".toList.contains character

/-- Read the name of an anchor or an alias after its indicator. -/
def readAnchor (text : List Char) : Except Fault (List Char × List Char) := do
  let (name, rest) ← readName text
  if endsOr endsAnchor rest then return (name, rest) else throw .form

/-! ## Tags -/

/-- Whether a character can stand in a tag; a percent sign begins an escape. -/
def isTagCharacter (character : Char) : Bool :=
  character.isAlphanum || "-;/?:@&=+$,_.!~*'()[]%".toList.contains character

/-- The characters that bytes encode in UTF-8. -/
def decodeBytes (bytes : List UInt8) : Except Fault (List Char) :=
  match String.fromUTF8? ⟨bytes.toArray⟩ with
  | some string => .ok string.toList
  | none => .error .form

/-- Decode the escapes in a tag.  `bytes` are those of the escapes just before,
which are decoded together. -/
def decodeEscapes (bytes : List UInt8) : List Char → Except Fault (List Char)
  | [] => decodeBytes bytes
  | '%' :: d₁ :: d₂ :: rest =>
      match Text.hexadecimalNumber? [d₁, d₂] with
      | none => .error .form
      | some number => decodeEscapes (bytes ++ [number.toUInt8]) rest
  | character :: rest =>
      if character = '%' then
        .error .form
      else do
        let decoded ← decodeBytes bytes
        let others ← decodeEscapes [] rest
        return decoded ++ character :: others

/-- Read the characters of a tag, of which there is at least one. -/
def readTagSuffix (text : List Char) : Except Fault (List Char × List Char) := do
  let run := text.takeWhile isTagCharacter
  if run.isEmpty then throw .form
  return (← decodeEscapes [] run, text.drop run.length)

/-- Read a tag handle after its first exclamation mark: a name that ends in
another one. -/
def readHandle (text : List Char) : Except Fault (List Char × List Char) :=
  let name := text.takeWhile isNameCharacter
  match text.drop name.length with
  | '!' :: rest => .ok ('!' :: name ++ ['!'], rest)
  | _ => .error .form

/-- Read a tag after its first exclamation mark, without checking what
follows. -/
def readTagName (text : List Char) : Except Fault (TagName × List Char) :=
  match text with
  | '<' :: rest => do
      let (suffix, rest) ← readTagSuffix rest
      match rest with
      | '>' :: rest => return (⟨none, suffix⟩, rest)
      | _ => throw .form
  | text =>
      if endsOr isSeparation text then
        .ok (⟨none, ['!']⟩, text)
      else if (text.takeWhile (!isSpaceOrBreak ·)).contains '!' then do
        let (handle, rest) ← readHandle text
        let (suffix, rest) ← readTagSuffix rest
        return (⟨some handle, suffix⟩, rest)
      else do
        let (suffix, rest) ← readTagSuffix text
        return (⟨some ['!'], suffix⟩, rest)

/-- Read a tag after its first exclamation mark.  A space or the end of the line
has to follow. -/
def readTag (text : List Char) : Except Fault (TagName × List Char) := do
  let (name, rest) ← readTagName text
  if endsOr isSpaceOrBreak rest then return (name, rest) else throw .form

/-! ## Directives -/

/-- A text without the spaces at its beginning. -/
def dropSpaces (text : List Char) : List Char :=
  text.dropWhile (· == ' ')

/-- Read one of the numbers of a version. -/
def readVersionNumber (text : List Char) : Except Fault (Nat × List Char) :=
  let digits := text.takeWhile Char.isDigit
  if digits.isEmpty then .error .form
  else if longestInteger < digits.length then .error (.numeral (.tooLongToRead digits.length))
  else .ok (Numeral.digitsValue 10 digits, text.drop digits.length)

/-- Read the version of the format. -/
def readVersion (text : List Char) : Except Fault (Directive × List Char) := do
  let (major, rest) ← readVersionNumber (dropSpaces text)
  match rest with
  | '.' :: rest =>
      let (_, rest) ← readVersionNumber rest
      if endsOr isSpaceOrBreak rest then return (.version major, rest) else throw .form
  | _ => throw .form

/-- Read the tag handle that a directive is about: an exclamation mark alone, or
a whole handle. -/
def readDefinedHandle (text : List Char) : Except Fault (List Char × List Char) :=
  match text with
  | '!' :: ' ' :: rest => .ok (['!'], ' ' :: rest)
  | '!' :: rest => readHandle rest
  | _ => .error .form

/-- Read a tag handle and what it stands for. -/
def readTagHandle (text : List Char) : Except Fault (Directive × List Char) := do
  let (handle, rest) ← readDefinedHandle (dropSpaces text)
  if rest.head? ≠ some ' ' then throw .form
  let (expansion, rest) ← readTagSuffix (dropSpaces rest)
  if endsOr isSpaceOrBreak rest then return (.tagHandle handle expansion, rest) else throw .form

/-- Read what follows the name of a directive.  One with an unknown name means
nothing, whatever follows. -/
def readDirectiveBody (name text : List Char) : Except Fault (Directive × List Char) :=
  if name = "YAML".toList then readVersion text
  else if name = "TAG".toList then readTagHandle text
  else .ok (.other, text.dropWhile (!isBreak ·))

/-- Read a directive after its percent sign, to the end of its line. -/
def readDirective (text : List Char) : Except Fault (Directive × List Char) := do
  let (name, rest) ← readName text
  if !endsOr isSpaceOrBreak rest then throw .form
  let (directive, rest) ← readDirectiveBody name rest
  return (directive, ← readLineEnd rest)

end UsageContracts.Yaml
