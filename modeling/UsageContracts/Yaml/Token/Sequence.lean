import UsageContracts.Yaml.Scalar.Plain
import UsageContracts.Yaml.Token.Name

/-!
# The tokens of a text

A text is read token by token.  Two things are settled only after the fact:
that a block has ended, which its indentation shows on a later line, and that
something was a key, which the colon after it shows.  Where a key may begin,
its place is remembered; the colon then puts the token for a key there, if it
comes on the same line and soon enough.
-/

namespace UsageContracts.Yaml

/-! ## Possible keys -/

/-- A place where a key may have begun. -/
structure PossibleKey where
  /-- The number of tokens before it. -/
  position : Nat
  line : Nat
  column : Nat
  offset : Nat
  /-- Whether nothing but a key can stand there. -/
  isRequired : Bool
deriving DecidableEq

/-- The greatest distance between the beginning of a key and its colon. -/
def longestKey : Nat := 1024

/-- Whether a colon at the cursor comes too late for a key: on another line, or
too far behind its beginning. -/
def PossibleKey.isStale (key : PossibleKey) (cursor : Cursor) : Bool :=
  key.line != cursor.line || key.offset + longestKey < cursor.offset

/-- Put tokens after the first `position` of the tokens, all lists having the
latest token first. -/
def insertTokens (position : Nat) (inserted tokens : List Token) : List Token :=
  let later := tokens.length - position
  tokens.take later ++ inserted ++ tokens.drop later

/-! ## The state of reading -/

/-- What has been read of a text, and what may become of it. -/
structure TokenReader where
  cursor : Cursor
  /-- The tokens so far, latest first. -/
  tokens : List Token := []
  /-- The columns of the open blocks, innermost first. -/
  blocks : List Nat := []
  /-- The possible key outside all brackets. -/
  blockKey : Option PossibleKey := none
  /-- The possible keys inside the open brackets, innermost first. -/
  bracketKeys : List (Option PossibleKey) := []
  /-- Whether a key may begin at the next token. -/
  mayBeginKey : Bool := true

namespace TokenReader

/-- Whether a bracket is open. -/
def inBrackets (reader : TokenReader) : Bool :=
  !reader.bracketKeys.isEmpty

/-- The possible key between the innermost brackets. -/
def currentKey (reader : TokenReader) : Option PossibleKey :=
  match reader.bracketKeys with
  | [] => reader.blockKey
  | key :: _ => key

/-- Remember a possible key between the innermost brackets. -/
def setKey (reader : TokenReader) (key : Option PossibleKey) : TokenReader :=
  match reader.bracketKeys with
  | [] => { reader with blockKey := key }
  | _ :: keys => { reader with bracketKeys := key :: keys }

/-- Forget the possible key between the innermost brackets, which must not be
required. -/
def forgetKey (reader : TokenReader) : Except Fault TokenReader :=
  match reader.currentKey with
  | some key => if key.isRequired then .error .form else .ok (reader.setKey none)
  | none => .ok reader

/-- Remember that a key may begin at the cursor. -/
def noteKey (reader : TokenReader) : Except Fault TokenReader :=
  if reader.mayBeginKey then do
    let reader ← reader.forgetKey
    return reader.setKey <| some
      { position := reader.tokens.length
        line := reader.cursor.line
        column := reader.cursor.column
        offset := reader.cursor.offset
        isRequired := !reader.inBrackets && reader.blocks.head? == some reader.cursor.column }
  else
    .ok reader

/-- Forget the possible keys for which a colon would come too late. -/
def forgetStaleKeys (reader : TokenReader) : Except Fault TokenReader :=
  let isStale (key : PossibleKey) : Bool := key.isStale reader.cursor
  let keys := reader.blockKey :: reader.bracketKeys
  if keys.any fun key? => key?.any fun key => isStale key && key.isRequired then
    .error .form
  else
    .ok { reader with
      blockKey := reader.blockKey.filter (!isStale ·)
      bracketKeys := reader.bracketKeys.map (·.filter (!isStale ·)) }

/-- Add a token and go on with the given rest of the text. -/
def emit (reader : TokenReader) (token : Token) (rest : List Char) : TokenReader :=
  { reader with tokens := token :: reader.tokens, cursor := reader.cursor.moveTo rest }

/-- Whether a block that begins at the column lies inside the open blocks. -/
def opensBlock (reader : TokenReader) (column : Nat) : Bool :=
  !reader.inBrackets && reader.blocks.head?.all (· < column)

/-- Open a block at the cursor if it lies inside the open blocks. -/
def openBlock (reader : TokenReader) (beginning : Token) : TokenReader :=
  if reader.opensBlock reader.cursor.column then
    { reader with
      tokens := beginning :: reader.tokens
      blocks := reader.cursor.column :: reader.blocks }
  else
    reader

/-- End the open blocks for which the predicate on their column holds, unless a
bracket is open. -/
def endBlocks (reader : TokenReader) (hasEnded : Nat → Bool) : TokenReader :=
  if reader.inBrackets then
    reader
  else
    let ended := reader.blocks.takeWhile hasEnded
    { reader with
      tokens := ended.map (fun _ => .endBlock) ++ reader.tokens
      blocks := reader.blocks.drop ended.length }

/-! ## Single tokens -/

/-- Read a token that belongs to no block and ends all of them. -/
def readBoundary (reader : TokenReader) (token : Token) (rest : List Char) :
    Except Fault TokenReader := do
  let reader ← (reader.endBlocks fun _ => true).forgetKey
  return { reader with mayBeginKey := false }.emit token rest

/-- Read an opening bracket. -/
def readOpening (reader : TokenReader) (token : Token) (rest : List Char) :
    Except Fault TokenReader := do
  let reader ← reader.noteKey
  return { reader with
    bracketKeys := none :: reader.bracketKeys
    mayBeginKey := true }.emit token rest

/-- Read a closing bracket; one has to be open. -/
def readClosing (reader : TokenReader) (token : Token) (rest : List Char) :
    Except Fault TokenReader := do
  let reader ← reader.forgetKey
  match reader.bracketKeys with
  | [] => throw .form
  | _ :: keys => return { reader with bracketKeys := keys, mayBeginKey := false }.emit token rest

/-- Read a comma. -/
def readComma (reader : TokenReader) (rest : List Char) : Except Fault TokenReader := do
  let reader ← reader.forgetKey
  return { reader with mayBeginKey := true }.emit .comma rest

/-- Read the dash before an item of a list. -/
def readDash (reader : TokenReader) (rest : List Char) : Except Fault TokenReader := do
  if !reader.inBrackets && !reader.mayBeginKey then throw .form
  let reader ← (reader.openBlock .beginItems).forgetKey
  return { reader with mayBeginKey := true }.emit .dash rest

/-- Read the question mark before a key. -/
def readQuestionMark (reader : TokenReader) (rest : List Char) :
    Except Fault TokenReader := do
  if !reader.inBrackets && !reader.mayBeginKey then throw .form
  let reader ← (reader.openBlock .beginEntries).forgetKey
  return { reader with mayBeginKey := !reader.inBrackets }.emit .key rest

/-- Read the colon before a value.  What was remembered as a possible key is
now known to be one; otherwise the colon stands for a value without a key. -/
def readColon (reader : TokenReader) (rest : List Char) : Except Fault TokenReader :=
  match reader.currentKey with
  | some key =>
      let reader := reader.setKey none
      let opens := reader.opensBlock key.column
      let inserted : List Token := if opens then [.key, .beginEntries] else [.key]
      .ok <| { reader with
        tokens := insertTokens key.position inserted reader.tokens
        blocks := if opens then key.column :: reader.blocks else reader.blocks
        mayBeginKey := false }.emit .value rest
  | none =>
      if !reader.inBrackets && !reader.mayBeginKey then
        .error .form
      else
        let reader := reader.openBlock .beginEntries
        .ok ({ reader with mayBeginKey := !reader.inBrackets }.emit .value rest)

/-- Read a token that may be, or begin, a key. -/
def readKeyPart (reader : TokenReader) (read : Except Fault (Token × List Char)) :
    Except Fault TokenReader := do
  let reader ← reader.noteKey
  let (token, rest) ← read
  return { reader with mayBeginKey := false }.emit token rest

/-- Read a block scalar after its indicator. -/
def readBlockScalar (reader : TokenReader) (isFolded : Bool) (rest : List Char) :
    Except Fault TokenReader := do
  let reader ← { reader with mayBeginKey := true }.forgetKey
  let least := match reader.blocks.head? with
    | some column => column + 1
    | none => 1
  let (content, rest) ← readBlock isFolded least rest
  return reader.emit (.scalar (Text.ofCharacters content) false) rest

/-- Read a plain scalar. -/
def readPlainScalar (reader : TokenReader) : Except Fault TokenReader := do
  let reader ← reader.noteKey
  let indentation := match reader.blocks.head? with
    | some column => column + 1
    | none => 0
  let scalar := readPlain reader.inBrackets indentation [] false reader.cursor
  return { reader with
    tokens := .scalar (Text.ofCharacters scalar.content) true :: reader.tokens
    cursor := scalar.cursor
    mayBeginKey := scalar.isLastOnLine }

/-- Whether a plain scalar can begin with a character, given what follows the
character. -/
def beginsPlain (inBrackets : Bool) (character : Char) (rest : List Char) : Bool :=
  let isIndicator := "-?:,[]\x7b\x7d#&*!|>'\"%@`".toList.contains character
  (!isSeparation character && !isIndicator) ||
    (!endsOr isSeparation rest &&
      (character == '-' || (!inBrackets && (character == '?' || character == ':'))))

/-- Read the token that begins with the character at the cursor, `rest` being
what follows the character. -/
def readToken (reader : TokenReader) (character : Char) (rest : List Char) :
    Except Fault TokenReader :=
  let atLineStart := reader.cursor.column = 0
  let endsWord := reader.inBrackets || endsOr isSeparation rest
  if character = '%' ∧ atLineStart then do
    let (directive, afterLine) ← readDirective rest
    reader.readBoundary (.directive directive) afterLine
  else if character = '-' ∧ atLineStart ∧ startsWithMarker (character :: rest) then
    reader.readBoundary .startMarker (rest.drop 2)
  else if character = '.' ∧ atLineStart ∧ startsWithMarker (character :: rest) then
    reader.readBoundary .endMarker (rest.drop 2)
  else if character = '[' then reader.readOpening .openList rest
  else if character = '\x7b' then reader.readOpening .openMap rest
  else if character = ']' then reader.readClosing .closeList rest
  else if character = '\x7d' then reader.readClosing .closeMap rest
  else if character = ',' then reader.readComma rest
  else if character = '-' ∧ endsOr isSeparation rest then reader.readDash rest
  else if character = '?' ∧ endsWord then reader.readQuestionMark rest
  else if character = ':' ∧ endsWord then reader.readColon rest
  else if character = '*' then
    reader.readKeyPart ((readAnchor rest).map fun (name, rest) => (.alias name, rest))
  else if character = '&' then
    reader.readKeyPart ((readAnchor rest).map fun (name, rest) => (.anchor name, rest))
  else if character = '!' then
    reader.readKeyPart ((readTag rest).map fun (name, rest) => (.tag name, rest))
  else if character = '|' ∧ !reader.inBrackets then reader.readBlockScalar false rest
  else if character = '>' ∧ !reader.inBrackets then reader.readBlockScalar true rest
  else if character = '\'' then
    reader.readKeyPart
      ((readSingleQuoted [] {} rest).map fun (content, rest) => (.scalar content false, rest))
  else if character = '"' then
    reader.readKeyPart
      ((readDoubleQuoted [] {} rest).map fun (content, rest) => (.scalar content false, rest))
  else if beginsPlain reader.inBrackets character rest then reader.readPlainScalar
  else .error .form

/-! ## The whole text -/

/-- Pass over spaces, comments and line ends.  Where no bracket is open, a key
may begin on a new line. -/
def skipSeparation (inBrackets inComment mayBeginKey : Bool) :
    List Char → Bool × List Char
  | [] => (mayBeginKey, [])
  | character :: rest =>
      if isBreak character then
        skipSeparation inBrackets false (mayBeginKey || !inBrackets) rest
      else if inComment || character == '#' then
        skipSeparation inBrackets true mayBeginKey rest
      else if character = ' ' then
        skipSeparation inBrackets false mayBeginKey rest
      else
        (mayBeginKey, character :: rest)

/-- The reader at the beginning of the next token.  What its place shows about
possible keys and open blocks is taken into account. -/
def approach (reader : TokenReader) : Except Fault TokenReader := do
  let (mayBeginKey, rest) :=
    skipSeparation reader.inBrackets false reader.mayBeginKey reader.cursor.rest
  let reader := { reader with cursor := reader.cursor.moveTo rest, mayBeginKey }
  let reader ← reader.forgetStaleKeys
  return reader.endBlocks fun column => reader.cursor.column < column

/-- The tokens that can be relied on, latest first: those before the first that
may still turn out to be part of a key. -/
def settledTokens (reader : TokenReader) : List Token :=
  let keys := (reader.blockKey :: reader.bracketKeys).filterMap id
  let positions := (keys.filter (!·.isStale reader.cursor)).map (·.position)
  match positions.min? with
  | none => reader.tokens
  | some position => reader.tokens.drop (reader.tokens.length - position)

/-- The outcome of reading one more token. -/
inductive Progress
  | more (reader : TokenReader)
  | finished (tokens : List Token)

/-- Read one more token. -/
def step (reader : TokenReader) : Except Fault Progress := do
  let reader ← reader.approach
  match reader.cursor.rest with
  | [] =>
      let reader ← (reader.endBlocks fun _ => true).forgetKey
      return .finished (.endOfText :: reader.tokens)
  | character :: rest => return .more (← reader.readToken character rest)

/-- The tokens of a text that is read from here on.  The last of them says that
the text has ended, or why it cannot be read further. -/
def allTokens (reader : TokenReader) : List Token :=
  match reader.step with
  | .error fault => (.broken fault :: reader.settledTokens).reverse
  | .ok (.finished tokens) => tokens.reverse
  | .ok (.more next) =>
      if _ : next.cursor.rest.length < reader.cursor.rest.length then
        next.allTokens
      else
        (.broken .form :: reader.settledTokens).reverse
termination_by reader.cursor.rest.length

end TokenReader

/-- The tokens of a text. -/
def tokensOf (text : List Char) : List Token :=
  TokenReader.allTokens { cursor := .start text }

end UsageContracts.Yaml
