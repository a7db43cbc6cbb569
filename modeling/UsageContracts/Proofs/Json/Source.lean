import UsageContracts.Json.Basic
import UsageContracts.Proofs.Number.Numeral

/-!
# JSON text

The grammar of JSON text as trees.  A tree tells a value and all of its spelling:
the white space between its parts, the numerals and the escapes in strings.  The
texts of the trees are the texts of JSON.
-/

namespace UsageContracts

namespace Json

/-! ## White space -/

/-- A character of white space. -/
inductive Blank
  | space
  | tab
  | lineFeed
  | carriageReturn
deriving DecidableEq

/-- The character that a blank is. -/
def Blank.character : Blank → Char
  | .space => ' '
  | .tab => '\t'
  | .lineFeed => '\n'
  | .carriageReturn => '\r'

/-- White space between the parts of a text. -/
abbrev Spacing := List Blank

/-- The characters of white space. -/
def Spacing.characters (spacing : Spacing) : List Char :=
  spacing.map Blank.character

/-! ## Strings -/

/-- The letters of escapes, each with the character for which it stands. -/
def escapeLetters : List (Char × Char) :=
  [ ('"', '"'), ('\\', '\\'), ('/', '/'), ('b', '\x08'), ('f', '\x0C'), ('n', '\n'),
    ('r', '\r'), ('t', '\t') ]

/-- A part of a string that stands for one code point. -/
inductive Piece
  /-- A character that stands for itself. -/
  | plain (character : Char) (isPlain : ' ' ≤ character ∧ character ≠ '"' ∧ character ≠ '\\')
  /-- A backslash and a letter. -/
  | letter (escape : Char × Char) (isEscape : escape ∈ escapeLetters)
  /-- A backslash, a letter and the four hexadecimal digits of a code point's
  number. -/
  | number (digits : List Char) (point : CodePoint)
      (isNumber : digits.length = 4 ∧ Text.hexadecimalNumber? digits = some point.number)

namespace Piece

/-- The characters of a part of a string. -/
def characters : Piece → List Char
  | .plain character _ => [character]
  | .letter escape _ => ['\\', escape.1]
  | .number digits _ _ => '\\' :: 'u' :: digits

/-- The code point for which a part of a string stands. -/
def point : Piece → CodePoint
  | .plain character _ => character
  | .letter escape _ => escape.2
  | .number _ point _ => point

end Piece

/-- The parts of a string. -/
abbrev Pieces := List Piece

namespace Pieces

/-- The characters of a string. -/
def characters (pieces : Pieces) : List Char :=
  '"' :: (pieces.flatMap Piece.characters ++ ['"'])

/-- The text for which a string stands. -/
def content (pieces : Pieces) : Text :=
  pieces.map Piece.point

/-- Whether characters stand for themselves in strings. -/
def arePlain (characters : List Char) : Bool :=
  characters.all fun character =>
    decide (' ' ≤ character ∧ character ≠ '"' ∧ character ≠ '\\')

/-- A string without escapes. -/
def plain (characters : List Char) (isPlain : arePlain characters = true) : Pieces :=
  characters.pmap Piece.plain (Text.forall_mem_of_all isPlain)

end Pieces

/-! ## Values -/

/-- A value that is written as a word. -/
inductive Word
  | null
  | false
  | true
deriving DecidableEq

namespace Word

/-- The characters of a word. -/
def characters : Word → List Char
  | .null => "null".toList
  | .false => "false".toList
  | .true => "true".toList

/-- The value of a word. -/
def json : Word → Json
  | .null => .null
  | .false => .bool .false
  | .true => .bool .true

end Word

/-- The name of a member, with the white space around it. -/
structure Name where
  before : Spacing := []
  pieces : Pieces
  after : Spacing := []

/-- A name without escapes and without white space around it. -/
def Name.plain (characters : List Char) (isPlain : Pieces.arePlain characters = true) : Name where
  pieces := .plain characters isPlain

/-- The characters of a name. -/
def Name.characters (name : Name) : List Char :=
  name.before.characters ++ (name.pieces.characters ++ name.after.characters)

/-- A text that is one value. -/
inductive Source
  | word (name : Word)
  | number (decimal : DecimalText)
  | string (pieces : Pieces)
  /-- A value with white space around it. -/
  | spaced (before : Spacing) (value : Source) (after : Spacing)
  | emptyList (spacing : Spacing)
  | list (first : Source) (others : List Source)
  | emptyObject (spacing : Spacing)
  | object (first : Name × Source) (others : List (Name × Source))

namespace Source

mutual

/-- The characters of a text. -/
def characters : Source → List Char
  | .word name => name.characters
  | .number decimal => decimal.characters
  | .string pieces => pieces.characters
  | .spaced before value after => before.characters ++ (characters value ++ after.characters)
  | .emptyList spacing => '[' :: (spacing.characters ++ [']'])
  | .list first others => '[' :: (characters first ++ (itemCharacters others ++ [']']))
  | .emptyObject spacing => '\x7b' :: (spacing.characters ++ ['\x7d'])
  | .object first others =>
      '\x7b' :: (memberCharacters first ++ (membersCharacters others ++ ['\x7d']))
termination_by structural source => source

/-- The characters of the further items of a list. -/
def itemCharacters : List Source → List Char
  | [] => []
  | item :: items => ',' :: (characters item ++ itemCharacters items)
termination_by structural items => items

/-- The characters of the further members of an object. -/
def membersCharacters : List (Name × Source) → List Char
  | [] => []
  | member :: members => ',' :: (memberCharacters member ++ membersCharacters members)
termination_by structural members => members

/-- The characters of a member of an object. -/
def memberCharacters : Name × Source → List Char
  | (name, value) => name.characters ++ ':' :: characters value
termination_by structural member => member

end

/-- The text of a tree. -/
def text (source : Source) : Text :=
  .ofCharacters source.characters

mutual

/-- The value of a text. -/
def json : Source → Json
  | .word name => name.json
  | .number decimal =>
      if decimal.IsInteger then .integer decimal.integer else .float decimal.float
  | .string pieces => .text pieces.content
  | .spaced _ value _ => json value
  | .emptyList _ => .list []
  | .list first others => .list (json first :: itemJsons others)
  | .emptyObject _ => .object []
  | .object first others => .object (memberJson first :: memberJsons others)
termination_by structural source => source

/-- The values of the items of a list. -/
def itemJsons : List Source → List Json
  | [] => []
  | item :: items => json item :: itemJsons items
termination_by structural items => items

/-- The members of an object. -/
def memberJsons : List (Name × Source) → List (Text × Json)
  | [] => []
  | member :: members => memberJson member :: memberJsons members
termination_by structural members => members

/-- A member of an object. -/
def memberJson : Name × Source → Text × Json
  | (name, value) => (name.pieces.content, json value)
termination_by structural member => member

end

/-- Whether a text is an object. -/
def IsObject : Source → Prop
  | .spaced _ value _ => value.IsObject
  | .emptyObject _ => True
  | .object _ _ => True
  | _ => False
termination_by structural source => source

/-- The value of an object is one. -/
theorem isObject_iff : ∀ source : Source,
    source.IsObject ↔ ∃ members, source.json = .object members
  | .word name => ⟨nofun, by cases name <;> nofun⟩
  | .number decimal => by
      refine ⟨nofun, fun ⟨members, json_eq⟩ => ?_⟩
      rw [json] at json_eq
      split at json_eq <;> cases json_eq
  | .string _ => ⟨nofun, nofun⟩
  | .spaced _ value _ => value.isObject_iff
  | .emptyList _ => ⟨nofun, nofun⟩
  | .list _ _ => ⟨nofun, nofun⟩
  | .emptyObject _ => ⟨fun _ => ⟨[], rfl⟩, fun _ => trivial⟩
  | .object _ _ => ⟨fun _ => ⟨_, rfl⟩, fun _ => trivial⟩

/-! ## Rules -/

/-- What is asked of the parts of a text. -/
structure Rules where
  spacing : Spacing → Prop := fun _ => True
  number : DecimalText → Prop
  string : Pieces → Prop
  /-- What is asked of a name besides what is asked of strings. -/
  name : Name → Prop := fun _ => True

mutual

/-- Whether all parts of a text are as rules ask, and the names of each object
differ. -/
def Obeys (rules : Rules) : Source → Prop
  | .word _ => True
  | .number decimal => rules.number decimal
  | .string pieces => rules.string pieces
  | .spaced before value after => rules.spacing before ∧ Obeys rules value ∧ rules.spacing after
  | .emptyList spacing => rules.spacing spacing
  | .list first others => Obeys rules first ∧ ItemsObey rules others
  | .emptyObject spacing => rules.spacing spacing
  | .object first others =>
      ((memberJson first :: memberJsons others).map (·.1)).Nodup ∧ MemberObeys rules first ∧
        MembersObey rules others
termination_by structural source => source

/-- Whether the items of a list are as rules ask. -/
def ItemsObey (rules : Rules) : List Source → Prop
  | [] => True
  | item :: items => Obeys rules item ∧ ItemsObey rules items
termination_by structural items => items

/-- Whether the members of an object are as rules ask. -/
def MembersObey (rules : Rules) : List (Name × Source) → Prop
  | [] => True
  | member :: members => MemberObeys rules member ∧ MembersObey rules members
termination_by structural members => members

/-- Whether a member of an object is as rules ask. -/
def MemberObeys (rules : Rules) : Name × Source → Prop
  | (name, value) =>
      (rules.spacing name.before ∧ rules.string name.pieces ∧ rules.spacing name.after ∧
        rules.name name) ∧ Obeys rules value
termination_by structural member => member

end

end Source

end Json

end UsageContracts
