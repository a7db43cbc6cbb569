import UsageContracts.Yaml.Cursor
import UsageContracts.Yaml.Fault
import UsageContracts.Yaml.Scalar.Quoted

/-!
# Block scalars

Scalars that keep the lines of an indented block, or fold them.  The header can
fix the indentation and say what becomes of the line ends at the end.
-/

namespace UsageContracts.Yaml

/-- What becomes of the line ends at the end of a block. -/
inductive Chomping
  /-- None of them is kept. -/
  | strip
  /-- The first of them is kept. -/
  | clip
  /-- All of them are kept. -/
  | keep
deriving DecidableEq

/-- What the header of a block says. -/
structure BlockHeader where
  chomping : Chomping := .clip
  /-- How many columns the block is indented more than what it belongs to. -/
  increment : Option Nat := none
deriving DecidableEq

/-- The chomping that an indicator asks for. -/
def Chomping.ofIndicator? : Char → Option Chomping
  | '+' => some .keep
  | '-' => some .strip
  | _ => none

/-- The increment that a digit asks for; it is not zero. -/
def incrementOf (digit : Char) : Except Fault Nat :=
  if digit = '0' then .error .form else .ok (digit.toNat - '0'.toNat)

/-- The chomping that the text begins with an indicator of, and the rest. -/
def takeChomping : List Char → Option Chomping × List Char
  | [] => (none, [])
  | indicator :: rest =>
      match Chomping.ofIndicator? indicator with
      | some chomping => (some chomping, rest)
      | none => (none, indicator :: rest)

/-- The increment that the text begins with a digit for, and the rest. -/
def takeIncrement : List Char → Except Fault (Option Nat × List Char)
  | [] => .ok (none, [])
  | digit :: rest =>
      if digit.isDigit then do
        let increment ← incrementOf digit
        return (some increment, rest)
      else
        .ok (none, digit :: rest)

/-- Read the indicators of a header, in either order. -/
def readIndicators (text : List Char) : Except Fault (BlockHeader × List Char) := do
  let (before?, rest) := takeChomping text
  let (increment, rest) ← takeIncrement rest
  match before? with
  | some chomping => return ({ chomping, increment }, rest)
  | none =>
      let (after?, rest) := takeChomping rest
      return ({ chomping := after?.getD .clip, increment }, rest)

/-- A text without the spaces and the comment at its beginning. -/
def dropComment (text : List Char) : List Char :=
  let afterSpaces := text.dropWhile (· == ' ')
  if afterSpaces.head? = some '#' then afterSpaces.dropWhile (!isBreak ·) else afterSpaces

/-- Read the rest of a line that may hold nothing more than a comment, together
with its end. -/
def readLineEnd (text : List Char) : Except Fault (List Char) :=
  match dropComment text with
  | [] => .ok []
  | character :: rest =>
      if isBreak character then .ok (afterBreak character rest) else .error .form

/-- Read a header and the end of its line. -/
def readHeader (text : List Char) : Except Fault (BlockHeader × List Char) := do
  let (header, rest) ← readIndicators text
  if endsOr isSpaceOrBreak rest then
    return (header, ← readLineEnd rest)
  else
    throw .form

/-- The empty lines at the beginning of a block: their ends, the greatest
column that spaces reach, the column where the text goes on, and the rest. -/
def leadingLines (greatest column : Nat) : List Char → List Char × Nat × Nat × List Char
  | [] => ([], greatest, column, [])
  | character :: rest =>
      if character = ' ' then
        leadingLines (max greatest (column + 1)) (column + 1) rest
      else if isHalfBreak character rest then
        leadingLines greatest column rest
      else if isBreak character then
        let (lineEnds, others) := leadingLines greatest 0 rest
        (readAs character :: lineEnds, others)
      else
        ([], greatest, column, character :: rest)

/-- The empty lines inside a block indented by `indentation` columns: their
ends, the column where the text goes on, and the rest. -/
def emptyLines (indentation column : Nat) : List Char → List Char × Nat × List Char
  | [] => ([], column, [])
  | character :: rest =>
      if character = ' ' ∧ column < indentation then
        emptyLines indentation (column + 1) rest
      else if isHalfBreak character rest then
        emptyLines indentation column rest
      else if isBreak character then
        let (lineEnds, others) := emptyLines indentation 0 rest
        (readAs character :: lineEnds, others)
      else
        ([], column, character :: rest)

/-- The lines of a block. -/
structure BlockLines where
  content : List Char
  /-- The end of the last line. -/
  lastEnd : List Char := []
  /-- The ends of the empty lines after it. -/
  emptyEnds : List Char
  rest : List Char

/-- What stands between two lines of a block, of which the second begins with
`next` after empty lines.  Where lines are folded, a space or the empty lines
stand for the end of a line, unless one of the lines begins with white space. -/
def lineJoint (isFolded : Bool) (line lineEnd emptyEnds next : List Char) : List Char :=
  let beginsText (text : List Char) : Bool :=
    text.head? != some ' ' && text.head? != some '\t'
  if isFolded && lineEnd == ['\n'] && beginsText line && beginsText next then
    if emptyEnds.isEmpty then [' '] else []
  else
    lineEnd

/-- The end of a line that the text begins with, and the rest. -/
def takeBreak : List Char → List Char × List Char
  | [] => ([], [])
  | character :: rest => ([readAs character], afterBreak character rest)

/-- Read the lines of a block indented by `indentation` columns, of which the
first begins here after empty lines. -/
def readLines (isFolded : Bool) (indentation : Nat) (emptyEnds : List Char) (text : List Char) :
    BlockLines :=
  let line := text.takeWhile (!isBreak ·)
  let (lineEnd, afterLine) := takeBreak (text.dropWhile (!isBreak ·))
  let (nextEmptyEnds, column, rest) := emptyLines indentation 0 afterLine
  if _ : column = indentation ∧ rest ≠ [] ∧ rest.length < text.length then
    let joint := lineJoint isFolded text lineEnd nextEmptyEnds rest
    let lines := readLines isFolded indentation nextEmptyEnds rest
    { lines with content := emptyEnds ++ line ++ joint ++ lines.content }
  else
    { content := emptyEnds ++ line, lastEnd := lineEnd, emptyEnds := nextEmptyEnds, rest }
termination_by text.length

/-- What a block begins with: the ends of the empty lines ahead of its first one,
its indentation, the column where the text goes on, and the rest.  Without an
increment it is indented as far as its first line, or the empty ones, are. -/
def blockStart (least : Nat) (increment : Option Nat) (text : List Char) :
    List Char × Nat × Nat × List Char :=
  match increment with
  | none =>
      let (lineEnds, greatest, column, rest) := leadingLines 0 0 text
      (lineEnds, max least greatest, column, rest)
  | some increment =>
      let indentation := least + increment - 1
      let (lineEnds, column, rest) := emptyLines indentation 0 text
      (lineEnds, indentation, column, rest)

/-- What is kept of the line ends at the end of a block. -/
def Chomping.ending (chomping : Chomping) (lines : BlockLines) : List Char :=
  match chomping with
  | .strip => []
  | .clip => lines.lastEnd
  | .keep => lines.lastEnd ++ lines.emptyEnds

/-- Read a block after its indicator.  It has to be indented by at least
`least` columns.  The result is its content and the rest. -/
def readBlock (isFolded : Bool) (least : Nat) (text : List Char) :
    Except Fault (List Char × List Char) := do
  let (header, afterHeader) ← readHeader text
  let (emptyEnds, indentation, column, rest) := blockStart least header.increment afterHeader
  let lines :=
    if column = indentation ∧ rest ≠ [] then
      readLines isFolded indentation emptyEnds rest
    else
      { content := [], emptyEnds, rest }
  return (lines.content ++ header.chomping.ending lines, lines.rest)

end UsageContracts.Yaml
