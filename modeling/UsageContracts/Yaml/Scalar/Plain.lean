import UsageContracts.Yaml.Cursor
import UsageContracts.Yaml.Scalar.Quoted

/-!
# Plain scalars

Scalars without quotation marks.  They end where a character of another meaning
begins; on further lines they go on as long as those are indented.
-/

namespace UsageContracts.Yaml

/-- Whether a character begins a collection or a new part of one between
brackets, or ends one of them. -/
def isBracketOrComma (character : Char) : Bool :=
  character == ',' || character == '[' || character == ']' || character == '\x7b' ||
    character == '\x7d'

/-- Whether a plain scalar ends before a character, given what follows the
character. -/
def endsPlain (inBrackets : Bool) (character : Char) (rest : List Char) : Bool :=
  isSeparation character ||
    (character == ':' &&
      endsOr (fun next => isSeparation next || (inBrackets && isBracketOrComma next)) rest) ||
    (inBrackets && (isBracketOrComma character || character == '?'))

/-- The part of a plain scalar without white space that the text begins with,
and the rest. -/
def plainChunk (inBrackets : Bool) : List Char → List Char × List Char
  | [] => ([], [])
  | character :: rest =>
      if endsPlain inBrackets character rest then
        ([], character :: rest)
      else
        let (chunk, rest) := plainChunk inBrackets rest
        (character :: chunk, rest)

/-- Pass over the further line ends of a gap in a plain scalar and the spaces
around them.  The result is `none` in place of the line ends if a marker that
ends a document follows one of them. -/
def passLineEnds : List Char → Option (List Char) × List Char
  | [] => (some [], [])
  | character :: rest =>
      if character = ' ' ∨ isHalfBreak character rest then
        passLineEnds rest
      else if isBreak character then
        if startsWithMarker rest then
          (none, rest)
        else
          let (further?, rest) := passLineEnds rest
          (further?.map (readAs character :: ·), rest)
      else
        (some [], character :: rest)

/-- White space after a part of a plain scalar: what it stands for if the
scalar goes on, whether it went beyond the end of a line, and the rest.  It
stands for nothing if the document ends there. -/
def plainGap (text : List Char) : List Char × Bool × List Char :=
  let blanks := text.takeWhile (· == ' ')
  match text.dropWhile (· == ' ') with
  | [] => (blanks, false, [])
  | character :: rest =>
      if isBreak character then
        let rest := afterBreak character rest
        if startsWithMarker rest then
          ([], true, rest)
        else
          match passLineEnds rest with
          | (some further, rest) => (Gap.fold (readAs character) further, true, rest)
          | (none, rest) => ([], true, rest)
      else
        (blanks, false, character :: rest)

/-- A plain scalar that has been read. -/
structure PlainScalar where
  content : List Char
  /-- Where its reading has ended, after the white space that follows it. -/
  cursor : Cursor
  /-- Whether that white space goes beyond the end of a line. -/
  isLastOnLine : Bool

/-- Read a plain scalar that goes on after `gap`.  Lines outside brackets have
to be indented by at least `indentation` columns. -/
def readPlain (inBrackets : Bool) (indentation : Nat) (gap : List Char) (isLastOnLine : Bool)
    (cursor : Cursor) : PlainScalar :=
  let (chunk, afterChunk) := plainChunk inBrackets cursor.rest
  if chunk.isEmpty then
    { content := [], cursor, isLastOnLine }
  else
    let (nextGap, leavesLine, afterGap) := plainGap afterChunk
    let next := cursor.moveTo afterGap
    if _ : next.rest.length < cursor.rest.length then
      if nextGap.isEmpty || next.rest.head? == some '#' ||
          (!inBrackets && next.column < indentation) then
        { content := gap ++ chunk, cursor := next, isLastOnLine := leavesLine }
      else
        let scalar := readPlain inBrackets indentation nextGap leavesLine next
        { scalar with content := gap ++ chunk ++ scalar.content }
    else
      { content := gap ++ chunk, cursor := next, isLastOnLine := leavesLine }
termination_by cursor.rest.length

end UsageContracts.Yaml
