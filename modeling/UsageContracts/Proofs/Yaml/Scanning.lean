import UsageContracts.Proofs.Outcome
import UsageContracts.Proofs.Yaml.LineEnds.Tokens
import UsageContracts.Proofs.Yaml.Plain
import UsageContracts.Proofs.Yaml.Quoted

/-!
# The tokens of JSON text

JSON text is scanned between brackets, where no indentation counts.  A reader
there is described by the number of open brackets, by the tokens it has read and
by the rest of the text; the possible keys matter only between a name and its
colon.
-/

namespace UsageContracts.Yaml

open Json (Pieces)

/-! ## Spacing -/

/-- Whether a character begins a token, so that nothing before it is passed
over. -/
def BeginsToken (character : Char) : Prop :=
  isSpaceOrBreak character = false ∧ character ≠ '#'

instance (character : Char) : Decidable (BeginsToken character) :=
  inferInstanceAs (Decidable (_ ∧ _))

theorem skipSeparation_spacing {spacing : List Char}
    (isSpacing : ∀ character ∈ spacing, IsSpacing character) {rest : List Char}
    (begins : ∀ character ∈ rest.head?, BeginsToken character) (inBrackets mayBeginKey : Bool) :
    ∃ mayBeginKey', TokenReader.skipSeparation inBrackets false mayBeginKey (spacing ++ rest) =
        (mayBeginKey', rest) ∧
      (mayBeginKey = true → mayBeginKey' = true) := by
  induction spacing generalizing mayBeginKey with
  | nil =>
      refine ⟨mayBeginKey, ?_, id⟩
      rcases rest with - | ⟨character, rest⟩
      · rfl
      have beginsToken := begins character rfl
      have notBreak : isBreak character = false ∧ character ≠ ' ' := by
        simpa [isSpaceOrBreak, and_comm] using beginsToken.1
      simp [TokenReader.skipSeparation, notBreak, beginsToken.2]
  | cons blank spacing ih =>
      have restSpacing : ∀ character ∈ spacing, IsSpacing character :=
        fun other member => isSpacing other (List.mem_cons_of_mem blank member)
      rcases isSpacing blank List.mem_cons_self with rfl | rfl
      · rcases ih restSpacing mayBeginKey with ⟨mayBeginKey', skip_eq, keeps⟩
        exact ⟨mayBeginKey', by simpa [TokenReader.skipSeparation, isBreak] using skip_eq, keeps⟩
      · rcases ih restSpacing (mayBeginKey || !inBrackets) with ⟨mayBeginKey', skip_eq, keeps⟩
        exact ⟨mayBeginKey', by simpa [TokenReader.skipSeparation, isBreak] using skip_eq,
          fun may => keeps (by simp [may])⟩

namespace TokenReader

/-! ## Readers between brackets -/

/-- Whether no possible key among some is required. -/
def NoneRequired (keys : List (Option PossibleKey)) : Prop :=
  ∀ key, some key ∈ keys → key.isRequired = false

/-- A reader with no open block and no required key: how many brackets are open,
which tokens it has read, the latest first, and what is left of the text. -/
structure StandsAt (reader : TokenReader) (depth : Nat) (tokens : List Token)
    (rest : List Char) : Prop where
  blocks_eq : reader.blocks = []
  noneRequired : NoneRequired (reader.blockKey :: reader.bracketKeys)
  depth_eq : reader.bracketKeys.length = depth
  tokens_eq : reader.tokens = tokens
  rest_eq : reader.cursor.rest = rest

variable {reader : TokenReader} {depth : Nat} {tokens : List Token} {rest : List Char}

theorem StandsAt.setKey (stands : reader.StandsAt depth tokens rest) {key? : Option PossibleKey}
    (notRequired : ∀ key, key? = some key → key.isRequired = false) :
    (reader.setKey key?).StandsAt depth tokens rest := by
  unfold TokenReader.setKey
  have noneRequired := stands.noneRequired
  split
  · next noBrackets =>
      refine { stands with noneRequired := ?_ }
      intro key member
      rcases List.mem_cons.mp member with key_eq | inBrackets
      · exact notRequired key key_eq.symm
      · exact noneRequired key (List.mem_cons_of_mem _ inBrackets)
  · next first keys brackets =>
      refine { stands with noneRequired := ?_, depth_eq := ?_ }
      · intro key member
        simp only [List.mem_cons] at member
        rcases member with inBlock | key_eq | inKeys
        · exact noneRequired key (by simp [inBlock])
        · exact notRequired key key_eq.symm
        · exact noneRequired key (by simp [brackets, inKeys])
      · rw [← stands.depth_eq, brackets]
        rfl

@[simp]
theorem currentKey_setKey (key? : Option PossibleKey) :
    (reader.setKey key?).currentKey = key? := by
  cases brackets : reader.bracketKeys <;>
    simp [TokenReader.setKey, TokenReader.currentKey, brackets]

theorem StandsAt.currentKey_notRequired (stands : reader.StandsAt depth tokens rest)
    {key : PossibleKey} (current : reader.currentKey = some key) : key.isRequired = false := by
  unfold TokenReader.currentKey at current
  split at current
  · exact stands.noneRequired key (by simp [current])
  · next brackets => exact stands.noneRequired key (by simp [brackets, current])

theorem exists_forgetKey (stands : reader.StandsAt depth tokens rest) :
    ∃ next, reader.forgetKey = .ok next ∧ next.StandsAt depth tokens rest ∧
      next.cursor = reader.cursor := by
  unfold TokenReader.forgetKey
  split
  · next key current =>
      rw [stands.currentKey_notRequired current, if_neg Bool.false_ne_true]
      exact ⟨_, rfl, stands.setKey (by simp), setKey_cursor none⟩
  · exact ⟨_, rfl, stands, rfl⟩

/-- The key that can begin at the cursor of a reader between brackets. -/
def keyAt (reader : TokenReader) : PossibleKey :=
  { position := reader.tokens.length
    line := reader.cursor.line
    column := reader.cursor.column
    offset := reader.cursor.offset
    isRequired := false }

/-- A key is noted where one may begin. -/
theorem exists_noteKey (stands : reader.StandsAt depth tokens rest) :
    ∃ next, reader.noteKey = .ok next ∧ next.StandsAt depth tokens rest ∧
      next.cursor = reader.cursor ∧
      (reader.mayBeginKey = true → next.currentKey = some reader.keyAt) := by
  unfold TokenReader.noteKey
  split
  · next may =>
      rcases exists_forgetKey stands with ⟨next, forget_eq, nextStands, cursor_eq⟩
      have notRequired : (!next.inBrackets && next.blocks.head? == some next.cursor.column) =
          false := by
        rw [nextStands.blocks_eq]
        simp
      have key_eq : next.keyAt = reader.keyAt := by
        simp only [keyAt, nextStands.tokens_eq, stands.tokens_eq, cursor_eq]
      rw [forget_eq, Outcome.ok_bind, notRequired]
      refine ⟨next.setKey (some next.keyAt), rfl, nextStands.setKey ?_, ?_, fun _ => ?_⟩
      · simp [keyAt]
      · rw [setKey_cursor, cursor_eq]
      · rw [currentKey_setKey, key_eq]
  · next mayNot => exact ⟨reader, rfl, stands, rfl, fun may => (mayNot may).elim⟩

/-! ## Approaching the next token -/

/-- A reader without the keys for which a colon would come too late. -/
def withoutStaleKeys (reader : TokenReader) : TokenReader :=
  { reader with
    blockKey := reader.blockKey.filter fun key => !key.isStale reader.cursor
    bracketKeys := reader.bracketKeys.map
      (·.filter fun key => !key.isStale reader.cursor) }

theorem forgetStaleKeys_eq (stands : reader.StandsAt depth tokens rest) :
    reader.forgetStaleKeys = .ok reader.withoutStaleKeys := by
  have noneStale : ((reader.blockKey :: reader.bracketKeys).any fun key? =>
      key?.any fun key => key.isStale reader.cursor && key.isRequired) = false := by
    rw [List.any_eq_false]
    intro key? member
    cases key? with
    | none => simp
    | some key => simp [stands.noneRequired key member]
  simp only [TokenReader.forgetStaleKeys, noneStale, Bool.false_eq_true, if_false,
    withoutStaleKeys]

theorem StandsAt.withoutStaleKeys (stands : reader.StandsAt depth tokens rest) :
    reader.withoutStaleKeys.StandsAt depth tokens rest := by
  refine { stands with noneRequired := ?_, depth_eq := ?_ }
  · intro key member
    apply stands.noneRequired key
    simp only [TokenReader.withoutStaleKeys, List.mem_cons, List.mem_map] at member
    rcases member with inBlock | ⟨key?, inBrackets, key_eq⟩
    · rcases Option.filter_eq_some_iff.mp inBlock.symm with ⟨blockKey, -⟩
      simp [blockKey]
    · rcases Option.filter_eq_some_iff.mp key_eq with ⟨rfl, -⟩
      simp [inBrackets]
  · simpa [TokenReader.withoutStaleKeys] using stands.depth_eq

theorem endBlocks_eq (noBlocks : reader.blocks = []) (hasEnded : Nat → Bool) :
    reader.endBlocks hasEnded = reader := by
  unfold TokenReader.endBlocks
  split
  · rfl
  · cases reader
    simp_all

theorem currentKey_withoutStaleKeys :
    reader.withoutStaleKeys.currentKey =
      reader.currentKey.filter fun key => !key.isStale reader.cursor := by
  cases brackets : reader.bracketKeys <;>
    simp [TokenReader.withoutStaleKeys, TokenReader.currentKey, brackets]

/-- How a reader that approaches the next token differs from what it was: it has
moved, and it has forgotten only keys that are too far away. -/
structure Approaches (reader near : TokenReader) (next : List Char) : Prop where
  cursor_eq : near.cursor = reader.cursor.moveTo next
  mayBeginKey : reader.mayBeginKey = true → near.mayBeginKey = true
  currentKey_eq : ∀ key, reader.currentKey = some key → key.isStale near.cursor = false →
    near.currentKey = some key

/-- A reader without open blocks approaches the next token, or the end of the
text. -/
theorem exists_approach {spacing : List Char}
    (isSpacing : ∀ character ∈ spacing, IsSpacing character)
    (begins : ∀ character ∈ rest.head?, BeginsToken character)
    (stands : reader.StandsAt depth tokens (spacing ++ rest)) :
    ∃ near, reader.approach = .ok near ∧ near.StandsAt depth tokens rest ∧
      reader.Approaches near rest := by
  obtain ⟨mayBeginKey, skip_eq, keeps⟩ := skipSeparation_spacing isSpacing begins
    reader.inBrackets reader.mayBeginKey
  let moved : TokenReader :=
    { reader with cursor := reader.cursor.moveTo rest, mayBeginKey }
  have movedStands : moved.StandsAt depth tokens rest :=
    { stands with rest_eq := Cursor.moveTo_rest stands.rest_eq }
  refine ⟨moved.withoutStaleKeys, ?_, movedStands.withoutStaleKeys, rfl, keeps, ?_⟩
  · simp only [TokenReader.approach, stands.rest_eq, skip_eq]
    rw [forgetStaleKeys_eq movedStands, Outcome.ok_bind,
      endBlocks_eq movedStands.withoutStaleKeys.blocks_eq]
    rfl
  · intro key current fresh
    have movedCurrent : moved.currentKey = some key := current
    rw [currentKey_withoutStaleKeys, movedCurrent, Option.filter_some]
    exact if_pos (by rw [Bool.not_eq_true', ← fresh]; rfl)

/-! ## Single tokens -/

theorem StandsAt.emit {passed : List Char}
    (stands : reader.StandsAt depth tokens (passed ++ rest)) (token : Token) :
    (reader.emit token rest).StandsAt depth (token :: tokens) rest :=
  { stands with
    tokens_eq := by rw [TokenReader.emit, stands.tokens_eq]
    rest_eq := Cursor.moveTo_rest stands.rest_eq }

theorem allTokens_eq_of_step {next : TokenReader} (step_eq : reader.step = .ok (.more next))
    (shorter : next.cursor.rest.length < reader.cursor.rest.length) :
    reader.allTokens = next.allTokens := by
  rw [allTokens, step_eq]
  simp [shorter]

/-- What a reader yields is what it yields after the next token. -/
theorem allTokens_eq_of_readToken {spacing : List Char}
    (isSpacing : ∀ character ∈ spacing, IsSpacing character) {character : Char}
    (begins : BeginsToken character)
    (stands : reader.StandsAt depth tokens (spacing ++ character :: rest)) {all : List Token}
    (reads : ∀ near : TokenReader, near.StandsAt depth tokens (character :: rest) →
      reader.Approaches near (character :: rest) →
      ∃ next, near.readToken character rest = .ok next ∧
        next.cursor.rest.length ≤ rest.length ∧ next.allTokens = all) :
    reader.allTokens = all := by
  have beginsRest : ∀ other ∈ (character :: rest).head?, BeginsToken other := by
    simpa using begins
  rcases exists_approach isSpacing beginsRest stands with
    ⟨near, approach_eq, nearStands, approaches⟩
  rcases reads near nearStands approaches with ⟨next, read_eq, shorter, all_eq⟩
  have step_eq : reader.step = .ok (.more next) := by
    rw [step, approach_eq, Outcome.ok_bind, nearStands.rest_eq]
    simp only [read_eq, Outcome.ok_bind, Outcome.pure_eq_ok]
  rw [allTokens_eq_of_step step_eq, all_eq]
  rw [stands.rest_eq, List.length_append, List.length_cons]
  omega

/-- All tokens that readers yield between so many brackets, after the given
tokens and before the given rest. -/
def Yields (depth : Nat) (tokens : List Token) (rest : List Char) (all : List Token) : Prop :=
  ∀ reader : TokenReader, reader.StandsAt depth tokens rest → reader.allTokens = all

/-- All tokens that readers yield where a key may begin. -/
def YieldsAtKey (depth : Nat) (tokens : List Token) (rest : List Char) (all : List Token) :
    Prop :=
  ∀ reader : TokenReader, reader.StandsAt depth tokens rest → reader.mayBeginKey = true →
    reader.allTokens = all

/-- At its end a text yields nothing more. -/
theorem yields_end (depth : Nat) (tokens : List Token) {spacing : List Char}
    (isSpacing : ∀ character ∈ spacing, IsSpacing character) :
    Yields depth tokens spacing (tokens.reverse ++ [.endOfText]) := by
  intro reader stands
  rw [← List.append_nil spacing] at stands
  rcases exists_approach isSpacing (by simp) stands with ⟨near, approach_eq, nearStands, -⟩
  rcases exists_forgetKey nearStands with ⟨last, forget_eq, lastStands, -⟩
  have step_eq : reader.step = .ok (.finished (.endOfText :: tokens)) := by
    rw [step, approach_eq, Outcome.ok_bind, nearStands.rest_eq]
    simp only [endBlocks_eq nearStands.blocks_eq, forget_eq, Outcome.ok_bind,
      lastStands.tokens_eq, Outcome.pure_eq_ok]
  rw [allTokens, step_eq]
  simp

theorem Yields.atKey {all : List Token} (yields : Yields depth tokens rest all) :
    YieldsAtKey depth tokens rest all :=
  fun reader stands _ => yields reader stands

variable {spacing : List Char} {all : List Token}

/-- An opening bracket is read, and a key may begin after it. -/
theorem yields_opening (isSpacing : ∀ character ∈ spacing, IsSpacing character) {bracket : Char}
    (begins : BeginsToken bracket) {token : Token}
    (read_eq : ∀ reader : TokenReader,
      reader.readToken bracket rest = reader.readOpening token rest)
    (yields : YieldsAtKey (depth + 1) (token :: tokens) rest all) :
    Yields depth tokens (spacing ++ bracket :: rest) all := by
  intro reader stands
  apply allTokens_eq_of_readToken isSpacing begins stands
  intro near nearStands _
  rcases exists_noteKey nearStands with ⟨noted, note_eq, notedStands, -, -⟩
  let opened : TokenReader :=
    { noted with bracketKeys := none :: noted.bracketKeys, mayBeginKey := true }
  have openedStands : opened.StandsAt (depth + 1) tokens ([bracket] ++ rest) := by
    refine { notedStands with noneRequired := ?_, depth_eq := ?_ }
    · intro key member
      apply notedStands.noneRequired key
      simpa [opened] using member
    · simpa [opened] using notedStands.depth_eq
  have nextStands := openedStands.emit token
  refine ⟨opened.emit token rest, ?_, ?_, yields _ nextStands rfl⟩
  · rw [read_eq, readOpening, note_eq, Outcome.ok_bind]
    rfl
  · exact Nat.le_of_eq (congrArg List.length nextStands.rest_eq)

/-- A closing bracket is read. -/
theorem yields_closing (isSpacing : ∀ character ∈ spacing, IsSpacing character) {bracket : Char}
    (begins : BeginsToken bracket) {token : Token}
    (read_eq : ∀ reader : TokenReader,
      reader.readToken bracket rest = reader.readClosing token rest)
    (yields : Yields depth (token :: tokens) rest all) :
    Yields (depth + 1) tokens (spacing ++ bracket :: rest) all := by
  intro reader stands
  apply allTokens_eq_of_readToken isSpacing begins stands
  intro near nearStands _
  rcases exists_forgetKey nearStands with ⟨free, forget_eq, freeStands, -⟩
  rcases List.exists_cons_of_length_eq_add_one freeStands.depth_eq with ⟨key?, keys, brackets⟩
  let closed : TokenReader := { free with bracketKeys := keys, mayBeginKey := false }
  have closedStands : closed.StandsAt depth tokens ([bracket] ++ rest) := by
    refine { freeStands with noneRequired := ?_, depth_eq := ?_ }
    · intro key member
      apply freeStands.noneRequired key
      rcases List.mem_cons.mp member with inBlock | inKeys
      · exact List.mem_cons.mpr (.inl inBlock)
      · exact List.mem_cons_of_mem _ (brackets ▸ List.mem_cons_of_mem _ inKeys)
    · simpa [brackets] using freeStands.depth_eq
  have nextStands := closedStands.emit token
  refine ⟨closed.emit token rest, ?_, ?_, yields _ nextStands⟩
  · rw [read_eq, readClosing, forget_eq, Outcome.ok_bind]
    simp only [brackets]
    rfl
  · exact Nat.le_of_eq (congrArg List.length nextStands.rest_eq)

/-- A comma is read, and a key may begin after it. -/
theorem yields_comma (isSpacing : ∀ character ∈ spacing, IsSpacing character)
    (yields : YieldsAtKey depth (.comma :: tokens) rest all) :
    Yields depth tokens (spacing ++ ',' :: rest) all := by
  intro reader stands
  apply allTokens_eq_of_readToken isSpacing (by decide) stands
  intro near nearStands _
  rcases exists_forgetKey nearStands with ⟨free, forget_eq, freeStands, -⟩
  let ready : TokenReader := { free with mayBeginKey := true }
  have readyStands : ready.StandsAt depth tokens ([','] ++ rest) := { freeStands with }
  have nextStands := readyStands.emit .comma
  refine ⟨ready.emit .comma rest, ?_, ?_, yields _ nextStands rfl⟩
  · have read_eq : near.readToken ',' rest = near.readComma rest := by
      simp [readToken]
    rw [read_eq, readComma, forget_eq, Outcome.ok_bind]
    rfl
  · exact Nat.le_of_eq (congrArg List.length nextStands.rest_eq)

theorem readToken_quotationMark (rest : List Char) :
    reader.readToken '"' rest = reader.readKeyPart
      ((readDoubleQuoted [] {} rest).map fun (content, rest) => (.scalar content false, rest)) := by
  simp [readToken]

/-- Where a JSON string begins, it is read; if a key may begin there, it is noted
as one. -/
theorem exists_readToken_pieces {pieces : Pieces} (onLine : ∀ piece ∈ pieces, IsOnLine piece)
    (stands : reader.StandsAt depth tokens (pieces.characters ++ rest)) :
    ∃ after next, pieces.characters = '"' :: after ∧
      reader.readToken '"' (after ++ rest) = .ok next ∧
      next.StandsAt depth (.scalar pieces.content false :: tokens) rest ∧
      next.cursor = reader.cursor.moveTo rest ∧
      (reader.mayBeginKey = true → next.currentKey = some reader.keyAt) := by
  rcases readDoubleQuoted_pieces onLine rest with ⟨after, pieces_eq, content_eq⟩
  rcases exists_noteKey stands with ⟨noted, note_eq, notedStands, cursor_eq, current_eq⟩
  let read : TokenReader := { noted with mayBeginKey := false }
  have readStands : read.StandsAt depth tokens (pieces.characters ++ rest) :=
    { notedStands with }
  refine ⟨after, read.emit (.scalar pieces.content false) rest, pieces_eq, ?_,
    readStands.emit _, ?_, current_eq⟩
  · rw [readToken_quotationMark, content_eq, readKeyPart, note_eq, Outcome.ok_bind]
    rfl
  · rw [← cursor_eq]
    rfl

/-- A JSON string is read as a scalar. -/
theorem yields_pieces (isSpacing : ∀ character ∈ spacing, IsSpacing character) {pieces : Pieces}
    (onLine : ∀ piece ∈ pieces, IsOnLine piece)
    (yields : Yields depth (.scalar pieces.content false :: tokens) rest all) :
    Yields depth tokens (spacing ++ (pieces.characters ++ rest)) all := by
  intro reader stands
  rcases readDoubleQuoted_pieces onLine rest with ⟨after, pieces_eq, -⟩
  rw [pieces_eq, List.cons_append] at stands
  apply allTokens_eq_of_readToken isSpacing (by decide) stands
  intro near nearStands _
  rw [← List.cons_append, ← pieces_eq] at nearStands
  obtain ⟨after', next, pieces_eq', read_eq, nextStands, -, -⟩ :=
    exists_readToken_pieces onLine nearStands
  obtain rfl : after = after' := by simpa [pieces_eq] using pieces_eq'
  refine ⟨next, read_eq, ?_, yields next nextStands⟩
  rw [nextStands.rest_eq, List.length_append]
  omega

theorem inBrackets_of_standsAt (stands : reader.StandsAt (depth + 1) tokens rest) :
    reader.inBrackets = true := by
  rcases List.exists_cons_of_length_eq_add_one stands.depth_eq with ⟨key?, keys, brackets⟩
  rw [inBrackets, brackets]
  rfl

/-! ## Words -/

/-- Whether a text begins with a word: with a digit or a letter of a name of JSON,
or with a hyphen before a digit. -/
def BeginsWord : List Char → Prop
  | [] => False
  | '-' :: rest => rest.head?.any Char.isDigit = true
  | character :: _ => character ∈ "0123456789ntf".toList

theorem readToken_word {character : Char} (begins : BeginsWord (character :: rest)) :
    reader.readToken character rest = reader.readPlainScalar ∧ BeginsToken character := by
  unfold BeginsWord at begins
  split at begins
  · next nil_eq => cases nil_eq
  · next rest' text_eq =>
      obtain ⟨rfl, rfl⟩ : character = '-' ∧ rest = rest' := by simpa using text_eq
      refine ⟨?_, by decide⟩
      rcases rest with - | ⟨digit, others⟩
      · cases begins
      · have isDigit : digit.isDigit = true := by simpa using begins
        have notHyphen : digit ≠ '-' := by
          rintro rfl
          cases isDigit
        have notSeparation : isSeparation digit = false :=
          (isWordPart_of_isNumeric (isNumeric_of_isDigit isDigit)).1
        simp [readToken, startsWithMarker, endsOr, notSeparation, notHyphen, beginsPlain]
  · next first others _ text_eq =>
      obtain ⟨rfl, rfl⟩ : character = first ∧ rest = others := by simpa using text_eq
      have each : ∀ character ∈ "0123456789ntf".toList,
          character ∉ "-?:,[]\x7b\x7d#&*!|>'\"%@`.".toList ∧
            isSeparation character = false ∧ BeginsToken character :=
        Text.forall_mem_of_all (by decide)
      rcases each character begins with ⟨differs, notSeparation, beginsToken⟩
      refine ⟨?_, beginsToken⟩
      simp only [String.reduceToList, List.mem_cons, List.not_mem_nil, or_false,
        not_or] at differs
      simp [readToken, beginsPlain, notSeparation, differs]

/-- A word is read as a plain scalar, together with the white space after it. -/
theorem yields_word (isSpacing : ∀ character ∈ spacing, IsSpacing character)
    {word gap : List Char} (begins : ∀ after, BeginsWord (word ++ after))
    (isWord : ∀ character ∈ word, IsWordPart character)
    (gapIsSpacing : ∀ character ∈ gap, IsSpacing character) {terminator : Char}
    (ends : EndsFlow terminator)
    (yields : Yields (depth + 1) (.scalar (Text.ofCharacters word) true :: tokens)
      (terminator :: rest) all) :
    Yields (depth + 1) tokens (spacing ++ (word ++ (gap ++ terminator :: rest))) all := by
  intro reader stands
  rcases word with - | ⟨first, others⟩
  · cases begins []
  have read_eq (near : TokenReader) :=
    @readToken_word near (others ++ (gap ++ terminator :: rest)) first (begins _)
  rw [List.cons_append] at stands
  apply allTokens_eq_of_readToken isSpacing (read_eq reader).2 stands
  intro near nearStands _
  rcases exists_noteKey nearStands with ⟨noted, note_eq, notedStands, -, -⟩
  obtain ⟨isLastOnLine, scalar_eq⟩ := readPlain_word (List.cons_ne_nil first others) isWord
    gapIsSpacing ends notedStands.rest_eq 0
  let next : TokenReader := { noted with
      tokens := .scalar (Text.ofCharacters (first :: others)) true :: noted.tokens
      cursor := noted.cursor.moveTo (terminator :: rest)
      mayBeginKey := isLastOnLine }
  have passed_eq : noted.cursor.rest = (first :: others ++ gap) ++ terminator :: rest := by
    rw [notedStands.rest_eq, List.append_assoc]
    rfl
  have nextStands : next.StandsAt (depth + 1)
      (.scalar (Text.ofCharacters (first :: others)) true :: tokens) (terminator :: rest) :=
    { notedStands with
      tokens_eq := congrArg (_ :: ·) notedStands.tokens_eq
      rest_eq := Cursor.moveTo_rest passed_eq }
  refine ⟨next, ?_, ?_, yields next nextStands⟩
  · rw [(read_eq near).1, readPlainScalar, note_eq, Outcome.ok_bind]
    simp only [inBrackets_of_standsAt notedStands, notedStands.blocks_eq, List.head?_nil,
      scalar_eq, Outcome.pure_eq_ok, next]
  · simp only [nextStands.rest_eq, List.length_append, List.length_cons]
    omega

/-! ## Names -/

/-- A colon turns a scalar that was noted as a key into one. -/
theorem exists_readToken_colon {key : PossibleKey} {name : Text}
    (stands : reader.StandsAt (depth + 1) (.scalar name false :: tokens) (':' :: rest))
    (current : reader.currentKey = some key) (position_eq : key.position = tokens.length) :
    ∃ next, reader.readToken ':' rest = .ok next ∧
      next.StandsAt (depth + 1) (.value :: .scalar name false :: .key :: tokens) rest := by
  have freeStands : (reader.setKey none).StandsAt _ _ _ := stands.setKey (by simp)
  have inserted_eq : insertTokens key.position [.key] (reader.setKey none).tokens =
      .scalar name false :: .key :: tokens := by
    simp [insertTokens, freeStands.tokens_eq, position_eq]
  have opens_eq : (reader.setKey none).opensBlock key.column = false := by
    simp [opensBlock, inBrackets_of_standsAt freeStands]
  let named : TokenReader :=
    { reader.setKey none with
      tokens := .scalar name false :: .key :: tokens
      mayBeginKey := false }
  have namedStands : named.StandsAt (depth + 1) (.scalar name false :: .key :: tokens)
      ([':'] ++ rest) :=
    { freeStands with tokens_eq := rfl }
  refine ⟨named.emit .value rest, ?_, namedStands.emit .value⟩
  have read_eq : reader.readToken ':' rest = reader.readColon rest := by
    simp [readToken, inBrackets_of_standsAt stands]
  rw [read_eq, readColon, current]
  simp only [opens_eq, Bool.false_eq_true, if_false, inserted_eq]
  rfl

/-- A key is not stale at its colon, if the colon comes soon enough on its line. -/
theorem isStale_eq_false {passed : List Char} (rest_eq : reader.cursor.rest = passed ++ rest)
    (short : passed.length ≤ longestKey)
    (onLine : ∀ character ∈ passed, isBreak character = false) :
    reader.keyAt.isStale (reader.cursor.moveTo rest) = false := by
  rcases Cursor.foldl_pass_onLine passed reader.cursor onLine with ⟨line_eq, offset_eq⟩
  rw [Cursor.moveTo_eq_foldl rest_eq]
  simp only [PossibleKey.isStale, keyAt, line_eq, offset_eq]
  simp only [bne_self_eq_false, Bool.false_or, decide_eq_false_iff_not]
  omega

/-- A name and the colon after it are read as a key. -/
theorem yields_name (isSpacing : ∀ character ∈ spacing, IsSpacing character) {pieces : Pieces}
    (onLine : ∀ piece ∈ pieces, IsOnLine piece) {gap : List Char}
    (gapIsBlank : ∀ character ∈ gap, character = ' ')
    (short : pieces.characters.length + gap.length ≤ longestKey)
    (yields : Yields (depth + 1) (.value :: .scalar pieces.content false :: .key :: tokens) rest
      all) :
    YieldsAtKey (depth + 1) tokens
      (spacing ++ (pieces.characters ++ (gap ++ ':' :: rest))) all := by
  intro reader stands mayBeginKey
  rcases readDoubleQuoted_pieces onLine (gap ++ ':' :: rest) with ⟨after, pieces_eq, -⟩
  rw [pieces_eq, List.cons_append] at stands
  apply allTokens_eq_of_readToken isSpacing (by decide) stands
  intro near nearStands approaches
  rw [← List.cons_append, ← pieces_eq] at nearStands
  obtain ⟨after', next, pieces_eq', read_eq, nextStands, cursor_eq, current_eq⟩ :=
    exists_readToken_pieces onLine nearStands
  obtain rfl : after = after' := by simpa [pieces_eq] using pieces_eq'
  refine ⟨next, read_eq, ?_, ?_⟩
  · simp only [nextStands.rest_eq, List.length_append]
    omega
  -- The colon follows on the same line, so the noted key is still near.
  have gapIsSpacing : ∀ character ∈ gap, IsSpacing character :=
    fun character member => .inl (gapIsBlank character member)
  refine allTokens_eq_of_readToken gapIsSpacing (by decide) nextStands
    fun atColon colonStands colonApproaches => ?_
  have passed_eq : near.cursor.rest = (pieces.characters ++ gap) ++ ':' :: rest := by
    rw [nearStands.rest_eq, List.append_assoc]
  have moved_eq : next.cursor.moveTo (':' :: rest) = near.cursor.moveTo (':' :: rest) := by
    rw [cursor_eq, Cursor.moveTo_moveTo nearStands.rest_eq]
  have fresh : near.keyAt.isStale atColon.cursor = false := by
    rw [colonApproaches.cursor_eq, moved_eq]
    apply isStale_eq_false passed_eq
    · rwa [List.length_append]
    · intro character member
      rcases List.mem_append.mp member with inName | inGap
      · exact (isInLine_pieces onLine character inName).notBreak
      · rw [gapIsBlank character inGap]
        rfl
  have current := colonApproaches.currentKey_eq _
    (current_eq (approaches.mayBeginKey mayBeginKey)) fresh
  obtain ⟨last, colon_eq, lastStands⟩ := exists_readToken_colon colonStands current
    (by simp [keyAt, nearStands.tokens_eq])
  refine ⟨last, colon_eq, ?_, yields last lastStands⟩
  exact Nat.le_of_eq (congrArg List.length lastStands.rest_eq)

end TokenReader

end UsageContracts.Yaml
