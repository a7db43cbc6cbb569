import UsageContracts.Yaml.Fault
import UsageContracts.Yaml.Character

/-!
# Quoted scalars

Scalars between single or double quotation marks.  White space inside them is
kept on a line; around the end of a line it is folded.  Between double
quotation marks a backslash begins an escape.
-/

namespace UsageContracts.Yaml

/-! ## Gaps -/

/-- How the white space read last began. -/
inductive GapKind
  /-- It has not left the line. -/
  | onLine
  /-- It went beyond the end of a line, read as the given character. -/
  | folded (lineEnd : Char)
  /-- It went beyond the end of a line that was escaped. -/
  | joined
deriving DecidableEq

/-- White space that counts only if the scalar goes on after it. -/
structure Gap where
  kind : GapKind := .onLine
  /-- The blanks on the line, latest first, or the further line ends, latest
  first. -/
  passed : List Char := []
deriving DecidableEq

namespace Gap

/-- What line ends stand for: one of them for a space, more of them for all but
the first, and a special separator always for itself. -/
def fold (lineEnd : Char) (further : List Char) : List Char :=
  if lineEnd ≠ '\n' then lineEnd :: further
  else if further.isEmpty then [' ']
  else further

/-- The text that a gap stands for. -/
def text (gap : Gap) : Text :=
  Text.ofCharacters <|
    match gap.kind with
    | .onLine => gap.passed.reverse
    | .folded lineEnd => fold lineEnd gap.passed.reverse
    | .joined => gap.passed.reverse

/-- A gap after one more blank.  Blanks around the end of a line do not count. -/
def passBlank (gap : Gap) (blank : Char) : Gap :=
  match gap.kind with
  | .onLine => { gap with passed := blank :: gap.passed }
  | _ => gap

/-- A gap after one more end of a line. -/
def passBreak (gap : Gap) (lineEnd : Char) : Gap :=
  match gap.kind with
  | .onLine => { kind := .folded lineEnd }
  | _ => { gap with passed := lineEnd :: gap.passed }

end Gap

/-! ## Escapes -/

/-- The code point that a backslash and one character stand for. -/
def simpleEscape? (character : Char) : Option Char :=
  match character with
  | '0' => some '\x00'
  | 'a' => some '\x07'
  | 'b' => some '\x08'
  | 't' => some '\t'
  | '\t' => some '\t'
  | 'n' => some '\n'
  | 'v' => some '\x0B'
  | 'f' => some '\x0C'
  | 'r' => some '\r'
  | 'e' => some '\x1B'
  | ' ' => some ' '
  | '"' => some '"'
  | '\\' => some '\\'
  | '/' => some '/'
  | 'N' => some '\u0085'
  | '_' => some '\u00A0'
  | 'L' => some '\u2028'
  | 'P' => some '\u2029'
  | _ => none

/-- The code point whose number hexadecimal digits write. -/
def numberedPoint (digits : List Char) : Except Fault CodePoint :=
  match Text.hexadecimalNumber? digits with
  | none => .error .form
  | some number =>
      match CodePoint.ofNumber? number with
      | some point => .ok point
      | none => .error (if number < 0x80000000 then .beyondCodeSpace else .beyondNumbers)

/-! ## Reading -/

/-- Read a scalar after its opening single quotation mark, up to the closing
one; two of them stand for one.  `content` is what has been read, latest first,
and `gap` the white space after it. -/
def readSingleQuoted (content : Text) (gap : Gap) : List Char → Except Fault (Text × List Char)
  | [] => .error .form
  | '\'' :: '\'' :: rest =>
      readSingleQuoted (.scalar '\'' :: (gap.text.reverse ++ content)) {} rest
  | character :: rest =>
      if character = '\'' then
        .ok (content.reverse ++ gap.text, rest)
      else if character = ' ' ∨ character = '\t' then
        readSingleQuoted content (gap.passBlank character) rest
      else if isHalfBreak character rest then
        readSingleQuoted content gap rest
      else if isBreak character then
        if startsWithMarker rest then .error .form
        else readSingleQuoted content (gap.passBreak (readAs character)) rest
      else
        readSingleQuoted (.scalar character :: (gap.text.reverse ++ content)) {} rest

/-- Read a scalar after its opening double quotation mark, up to the closing
one.  `content` is what has been read, latest first, and `gap` the white space
after it. -/
def readDoubleQuoted (content : Text) (gap : Gap) : List Char → Except Fault (Text × List Char)
  | [] => .error .form
  | '\\' :: 'x' :: d₁ :: d₂ :: rest => do
      let point ← numberedPoint [d₁, d₂]
      readDoubleQuoted (point :: (gap.text.reverse ++ content)) {} rest
  | '\\' :: 'u' :: d₁ :: d₂ :: d₃ :: d₄ :: rest => do
      let point ← numberedPoint [d₁, d₂, d₃, d₄]
      readDoubleQuoted (point :: (gap.text.reverse ++ content)) {} rest
  | '\\' :: 'U' :: d₁ :: d₂ :: d₃ :: d₄ :: d₅ :: d₆ :: d₇ :: d₈ :: rest => do
      let point ← numberedPoint [d₁, d₂, d₃, d₄, d₅, d₆, d₇, d₈]
      readDoubleQuoted (point :: (gap.text.reverse ++ content)) {} rest
  | '\\' :: '\r' :: '\n' :: rest =>
      if startsWithMarker rest then .error .form
      else readDoubleQuoted (gap.text.reverse ++ content) { kind := .joined } rest
  | '\\' :: escaped :: rest =>
      if isBreak escaped then
        if startsWithMarker rest then .error .form
        else readDoubleQuoted (gap.text.reverse ++ content) { kind := .joined } rest
      else
        match simpleEscape? escaped with
        | none => .error .form
        | some character =>
            readDoubleQuoted (.scalar character :: (gap.text.reverse ++ content)) {} rest
  | character :: rest =>
      if character = '"' then
        .ok (content.reverse ++ gap.text, rest)
      else if character = '\\' then
        .error .form
      else if character = ' ' ∨ character = '\t' then
        readDoubleQuoted content (gap.passBlank character) rest
      else if isHalfBreak character rest then
        readDoubleQuoted content gap rest
      else if isBreak character then
        if startsWithMarker rest then .error .form
        else readDoubleQuoted content (gap.passBreak (readAs character)) rest
      else
        readDoubleQuoted (.scalar character :: (gap.text.reverse ++ content)) {} rest

end UsageContracts.Yaml
