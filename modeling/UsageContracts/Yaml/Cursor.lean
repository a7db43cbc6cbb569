import UsageContracts.Yaml.Character

/-!
# Places in a text

A cursor is the rest of a text together with the line and the column at which
the rest begins.  Readers work on the rest; the cursor is then moved to what
they have left.
-/

namespace UsageContracts.Yaml

/-- A place in a text. -/
structure Cursor where
  rest : List Char
  line : Nat := 0
  column : Nat := 0
  /-- How many characters of the line stand before the rest.  A byte order mark
  is one of them, although it takes no column. -/
  offset : Nat := 0

namespace Cursor

/-- The beginning of a text.  A byte order mark there takes no column. -/
def start : List Char → Cursor
  | character :: rest =>
      if character = byteOrderMark then { rest, offset := 1 } else { rest := character :: rest }
  | [] => { rest := [] }

/-- The place after one more character.  A byte order mark takes no column, and
a carriage return before a line feed does not end the line yet. -/
def pass (cursor : Cursor) (character : Char) : Cursor :=
  let rest := cursor.rest.tail
  if isBreak character && !isHalfBreak character rest then
    { rest, line := cursor.line + 1 }
  else if character = byteOrderMark then
    { cursor with rest, offset := cursor.offset + 1 }
  else
    { cursor with rest, column := cursor.column + 1, offset := cursor.offset + 1 }

/-- The place where the given end of the text begins. -/
def moveTo (cursor : Cursor) (rest : List Char) : Cursor :=
  (cursor.rest.take (cursor.rest.length - rest.length)).foldl pass cursor

end Cursor

end UsageContracts.Yaml
