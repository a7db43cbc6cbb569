import UsageContracts.Proofs.Yaml.LineEnds.Names
import UsageContracts.Proofs.Yaml.LineEnds.Quoted
import UsageContracts.Yaml.Token.Sequence

/-!
# The tokens of a text, whatever ends its lines

A text and the text with unified line ends have the same tokens.  Reading one token
after the other takes readers at corresponding places to corresponding places, with
the same line, column, tokens, blocks and possible keys.
-/

namespace UsageContracts.Yaml

namespace TokenReader

/-- A reader of a text whose line ends are unified. -/
def unified (reader : TokenReader) : TokenReader :=
  { reader with cursor := reader.cursor.unified }

/-- Whether a step leads to corresponding readers, the place of which has the given
property. -/
abbrev StepsAlike (good : Cursor → Prop) (outcome other : Except Fault TokenReader) : Prop :=
  FareAlike unified (fun reader => good reader.cursor) outcome other

variable {reader : TokenReader} {rest : List Char} {good : Cursor → Prop}

/-! ## Keys and blocks -/

theorem setKey_unified (reader : TokenReader) (key : Option PossibleKey) :
    reader.unified.setKey key = (reader.setKey key).unified := by
  unfold setKey
  cases keys : reader.bracketKeys <;> simp [unified, keys]

@[simp]
theorem setKey_cursor (key? : Option PossibleKey) :
    (reader.setKey key?).cursor = reader.cursor := by
  unfold TokenReader.setKey
  split <;> rfl

theorem forgetKey_alike (reader : TokenReader) :
    StepsAlike (· = reader.cursor) reader.forgetKey reader.unified.forgetKey := by
  have current : reader.unified.currentKey = reader.currentKey := rfl
  unfold forgetKey
  rw [current]
  cases reader.currentKey with
  | none => exact .passed rfl
  | some key =>
      rw [setKey_unified]
      exact .ite (fun _ => .failed .form) fun _ => .passed (setKey_cursor none)

theorem noteKey_alike (reader : TokenReader) :
    StepsAlike (· = reader.cursor) reader.noteKey reader.unified.noteKey := by
  refine .ite (fun _ => ?_) fun _ => .passed rfl
  refine (forgetKey_alike reader).bind fun next next_eq => ?_
  simp only [setKey_unified]
  exact .passed ((setKey_cursor _).trans next_eq)

theorem forgetStaleKeys_alike (reader : TokenReader) :
    StepsAlike (· = reader.cursor) reader.forgetStaleKeys reader.unified.forgetStaleKeys :=
  .ite (fun _ => .failed .form) fun _ => .passed rfl

theorem openBlock_unified (reader : TokenReader) (beginning : Token) :
    reader.unified.openBlock beginning = (reader.openBlock beginning).unified := by
  have opens : reader.unified.opensBlock reader.unified.cursor.column =
      reader.opensBlock reader.cursor.column := rfl
  rw [openBlock, openBlock, opens]
  split <;> rfl

theorem openBlock_cursor (reader : TokenReader) (beginning : Token) :
    (reader.openBlock beginning).cursor = reader.cursor := by
  unfold openBlock
  split <;> rfl

theorem endBlocks_unified (reader : TokenReader) (hasEnded : Nat → Bool) :
    reader.unified.endBlocks hasEnded = (reader.endBlocks hasEnded).unified := by
  have brackets : reader.unified.inBrackets = reader.inBrackets := rfl
  rw [endBlocks, endBlocks, brackets]
  split <;> rfl

theorem endBlocks_cursor (reader : TokenReader) (hasEnded : Nat → Bool) :
    (reader.endBlocks hasEnded).cursor = reader.cursor := by
  unfold endBlocks
  split <;> rfl

/-! ## Single tokens -/

/-- A reader whose place has not changed adds a token and goes on behind it. -/
theorem emit_alike (next : TokenReader) (token : Token) (next_eq : next.cursor = reader.cursor)
    (passes : Passes reader.cursor.rest rest) :
    StepsAlike (Passes reader.cursor.rest ·.rest) (.ok (next.emit token rest))
      (.ok (next.unified.emit token (normalizeBreaks rest))) := by
  rw [← next_eq] at passes ⊢
  have moved := Cursor.moveTo_unified passes
  have emit_eq : next.unified.emit token (normalizeBreaks rest) =
      (next.emit token rest).unified := by
    simp only [emit, unified, moved]
  have emit_rest : (next.emit token rest).cursor.rest = rest :=
    Cursor.moveTo_rest_of_passes passes
  rw [emit_eq]
  refine .passed ?_
  simp only [emit_rest]
  exact passes

theorem readBoundary_alike (token : Token) (passes : Passes reader.cursor.rest rest) :
    StepsAlike (Passes reader.cursor.rest ·.rest) (reader.readBoundary token rest)
      (reader.unified.readBoundary token (normalizeBreaks rest)) := by
  unfold readBoundary
  rw [endBlocks_unified]
  refine (forgetKey_alike _).bind fun next next_eq => ?_
  exact emit_alike { next with mayBeginKey := false } token
    (next_eq.trans (endBlocks_cursor reader _)) passes

theorem readOpening_alike (token : Token) (passes : Passes reader.cursor.rest rest) :
    StepsAlike (Passes reader.cursor.rest ·.rest) (reader.readOpening token rest)
      (reader.unified.readOpening token (normalizeBreaks rest)) := by
  refine (noteKey_alike reader).bind fun next next_eq => ?_
  exact emit_alike { next with bracketKeys := none :: next.bracketKeys, mayBeginKey := true } token
    next_eq passes

theorem readClosing_alike (token : Token) (passes : Passes reader.cursor.rest rest) :
    StepsAlike (Passes reader.cursor.rest ·.rest) (reader.readClosing token rest)
      (reader.unified.readClosing token (normalizeBreaks rest)) := by
  refine (forgetKey_alike reader).bind fun next next_eq => ?_
  have brackets : next.unified.bracketKeys = next.bracketKeys := rfl
  rw [brackets]
  cases next.bracketKeys with
  | nil => exact .failed .form
  | cons key keys =>
      exact emit_alike { next with bracketKeys := keys, mayBeginKey := false } token next_eq passes

theorem readComma_alike (passes : Passes reader.cursor.rest rest) :
    StepsAlike (Passes reader.cursor.rest ·.rest) (reader.readComma rest)
      (reader.unified.readComma (normalizeBreaks rest)) := by
  refine (forgetKey_alike reader).bind fun next next_eq => ?_
  exact emit_alike { next with mayBeginKey := true } .comma next_eq passes

theorem readDash_alike (passes : Passes reader.cursor.rest rest) :
    StepsAlike (Passes reader.cursor.rest ·.rest) (reader.readDash rest)
      (reader.unified.readDash (normalizeBreaks rest)) := by
  refine .ite (fun _ => .failed .form) fun _ => ?_
  simp only [openBlock_unified]
  refine (forgetKey_alike _).bind fun next next_eq => ?_
  exact emit_alike { next with mayBeginKey := true } .dash
    (next_eq.trans (openBlock_cursor reader _)) passes

theorem readQuestionMark_alike (passes : Passes reader.cursor.rest rest) :
    StepsAlike (Passes reader.cursor.rest ·.rest) (reader.readQuestionMark rest)
      (reader.unified.readQuestionMark (normalizeBreaks rest)) := by
  refine .ite (fun _ => .failed .form) fun _ => ?_
  simp only [openBlock_unified]
  refine (forgetKey_alike _).bind fun next next_eq => ?_
  exact emit_alike { next with mayBeginKey := !next.inBrackets } .key
    (next_eq.trans (openBlock_cursor reader _)) passes

theorem readColon_alike (passes : Passes reader.cursor.rest rest) :
    StepsAlike (Passes reader.cursor.rest ·.rest) (reader.readColon rest)
      (reader.unified.readColon (normalizeBreaks rest)) := by
  have current : reader.unified.currentKey = reader.currentKey := rfl
  unfold readColon
  rw [current]
  cases reader.currentKey with
  | some key =>
      simp only [setKey_unified]
      exact emit_alike _ .value (setKey_cursor none) passes
  | none =>
      simp only [openBlock_unified]
      refine .ite (fun _ => .failed .form) fun _ => ?_
      exact emit_alike { reader.openBlock .beginEntries with mayBeginKey := _ } .value
        (openBlock_cursor reader _) passes

theorem readKeyPart_alike {read other : Except Fault (Token × List Char)}
    (alike : ReadsOnAlike reader.cursor.rest read other) :
    StepsAlike (Passes reader.cursor.rest ·.rest) (reader.readKeyPart read)
      (reader.unified.readKeyPart other) := by
  refine (noteKey_alike reader).bind fun next next_eq => ?_
  refine alike.bind ?_
  rintro ⟨token, rest⟩ passes
  exact emit_alike { next with mayBeginKey := false } token next_eq passes

theorem readBlockScalar_alike (isFolded : Bool) {text : List Char}
    (passes : Passes reader.cursor.rest text) :
    StepsAlike (Passes reader.cursor.rest ·.rest) (reader.readBlockScalar isFolded text)
      (reader.unified.readBlockScalar isFolded (normalizeBreaks text)) := by
  unfold readBlockScalar
  refine (forgetKey_alike { reader with mayBeginKey := true }).bind fun next next_eq => ?_
  refine (ReadsOnAlike.after (readBlock_alike isFolded _ text) passes).bind ?_
  rintro ⟨content, rest⟩ passes
  exact emit_alike next _ next_eq passes

theorem readPlainScalar_alike (reader : TokenReader) :
    StepsAlike (Passes reader.cursor.rest ·.rest) reader.readPlainScalar
      reader.unified.readPlainScalar := by
  refine (noteKey_alike reader).bind fun next next_eq => ?_
  have cursor_eq : next.unified.cursor = next.cursor.unified := rfl
  have brackets : next.unified.inBrackets = next.inBrackets := rfl
  have blocks : next.unified.blocks = next.blocks := rfl
  simp only [cursor_eq, brackets, blocks, (readPlain_unified _ _ _ _ _).1, ← next_eq]
  exact .passed (readPlain_unified _ _ _ _ _).2

theorem beginsPlain_normalizeBreaks (inBrackets : Bool) (character : Char) (rest : List Char) :
    beginsPlain inBrackets character (normalizeBreaks rest) =
      beginsPlain inBrackets character rest := by
  simp only [beginsPlain, endsOr_isSeparation_normalizeBreaks]

/-- A marker stands on one line. -/
theorem drop_marker_normalizeBreaks {character : Char}
    (starts : startsWithMarker (character :: rest) = true) :
    (normalizeBreaks rest).drop 2 = normalizeBreaks (rest.drop 2) ∧
      Passes rest (rest.drop 2) := by
  have passed {mark : Char} (notBreak : isBreak mark = false) (later : List Char) :
      (normalizeBreaks (mark :: mark :: later)).drop 2 = normalizeBreaks later ∧
        Passes (mark :: mark :: later) later := by
    rw [normalizeBreaks_cons_of_not_isBreak notBreak, normalizeBreaks_cons_of_not_isBreak notBreak]
    exact ⟨rfl, ((Passes.refl later).cons notBreak).cons notBreak⟩
  unfold startsWithMarker at starts
  split at starts
  · next later text_eq =>
      cases text_eq
      exact passed rfl later
  · next later text_eq =>
      cases text_eq
      exact passed rfl later
  · cases starts

/-- Whatever token a text goes on with, both readers read it. -/
theorem readToken_alike {character : Char} (rest_eq : reader.cursor.rest = character :: rest)
    (notBreak : isBreak character = false) :
    StepsAlike (Passes reader.cursor.rest ·.rest) (reader.readToken character rest)
      (reader.unified.readToken character (normalizeBreaks rest)) := by
  have brackets : reader.unified.inBrackets = reader.inBrackets := rfl
  have column : reader.unified.cursor.column = reader.cursor.column := rfl
  have marker : startsWithMarker (character :: normalizeBreaks rest) =
      startsWithMarker (character :: rest) := by
    rw [← normalizeBreaks_cons_of_not_isBreak notBreak, startsWithMarker_normalizeBreaks]
  have passes : Passes reader.cursor.rest rest := by
    rw [rest_eq]
    exact (Passes.refl rest).cons notBreak
  have boundary (token : Token) (starts : startsWithMarker (character :: rest) = true) :
      StepsAlike (Passes reader.cursor.rest ·.rest) (reader.readBoundary token (rest.drop 2))
        (reader.unified.readBoundary token ((normalizeBreaks rest).drop 2)) := by
    obtain ⟨drop_eq, markerPasses⟩ := drop_marker_normalizeBreaks starts
    rw [drop_eq]
    exact readBoundary_alike token (passes.trans markerPasses)
  have keyPart {α : Type} {make : α × List Char → Token × List Char}
      {read : List Char → Except Fault (α × List Char)}
      (alike : ReadsOnAlike rest (read rest) (read (normalizeBreaks rest)))
      (keeps : ∀ result, make (unifyRest result) = unifyRest (make result) ∧
        (make result).2 = result.2) :
      StepsAlike (Passes reader.cursor.rest ·.rest) (reader.readKeyPart ((read rest).map make))
        (reader.unified.readKeyPart ((read (normalizeBreaks rest)).map make)) :=
    readKeyPart_alike ((alike.map keeps).after passes)
  have quoted {read : List Char → Except Fault (Text × List Char)}
      (alike : ReadsQuotedAlike rest (read rest) (read (normalizeBreaks rest))) :
      ReadsOnAlike rest (read rest) (read (normalizeBreaks rest)) :=
    alike.mono fun _ passes => passes.1
  unfold readToken
  simp only [brackets, column, marker, endsOr_isSeparation_normalizeBreaks,
    beginsPlain_normalizeBreaks]
  refine .ite (fun _ => ?directive) fun _ =>
    .ite (fun starts => boundary .startMarker starts.2.2) fun _ =>
    .ite (fun starts => boundary .endMarker starts.2.2) fun _ =>
    .ite (fun _ => readOpening_alike .openList passes) fun _ =>
    .ite (fun _ => readOpening_alike .openMap passes) fun _ =>
    .ite (fun _ => readClosing_alike .closeList passes) fun _ =>
    .ite (fun _ => readClosing_alike .closeMap passes) fun _ =>
    .ite (fun _ => readComma_alike passes) fun _ =>
    .ite (fun _ => readDash_alike passes) fun _ =>
    .ite (fun _ => readQuestionMark_alike passes) fun _ =>
    .ite (fun _ => readColon_alike passes) fun _ =>
    .ite (fun _ => keyPart (readAnchor_alike rest) fun _ => ⟨rfl, rfl⟩) fun _ =>
    .ite (fun _ => keyPart (readAnchor_alike rest) fun _ => ⟨rfl, rfl⟩) fun _ =>
    .ite (fun _ => keyPart (readTag_alike rest) fun _ => ⟨rfl, rfl⟩) fun _ =>
    .ite (fun _ => readBlockScalar_alike false passes) fun _ =>
    .ite (fun _ => readBlockScalar_alike true passes) fun _ =>
    .ite (fun _ => keyPart (quoted (readSingleQuoted_alike [] {} rest)) fun _ => ⟨rfl, rfl⟩)
      fun _ =>
    .ite (fun _ => keyPart (quoted (readDoubleQuoted_alike [] {} rest)) fun _ => ⟨rfl, rfl⟩)
      fun _ =>
    .ite (fun _ => readPlainScalar_alike reader) fun _ => .failed .form
  case directive =>
    refine (ReadsOnAlike.after (readDirective_alike rest) passes).bind ?_
    rintro ⟨directive, afterLine⟩ passes
    exact readBoundary_alike (.directive directive) passes

/-! ## The whole text -/

theorem skipSeparation_of_isBreak {character : Char} (isEnd : isBreak character = true)
    (inBrackets inComment mayBeginKey : Bool) (rest : List Char) :
    skipSeparation inBrackets inComment mayBeginKey (character :: rest) =
      skipSeparation inBrackets false (mayBeginKey || !inBrackets) rest := by
  rw [skipSeparation, if_pos isEnd]

theorem skipSeparation_normalizeBreaks (inBrackets inComment mayBeginKey : Bool)
    (text : List Char) :
    skipSeparation inBrackets inComment mayBeginKey (normalizeBreaks text) =
        unifyRest (skipSeparation inBrackets inComment mayBeginKey text) ∧
      Passes text (skipSeparation inBrackets inComment mayBeginKey text).2 ∧
      ∀ character ∈ (skipSeparation inBrackets inComment mayBeginKey text).2.head?,
        isBreak character = false := by
  induction text generalizing inComment mayBeginKey with
  | nil => exact ⟨rfl, .refl [], by simp [skipSeparation]⟩
  | cons character rest ih =>
      cases isEnd : isBreak character with
      | true =>
          obtain ⟨alike, passes, begins⟩ := ih false (mayBeginKey || !inBrackets)
          rw [skipSeparation_of_isBreak isEnd]
          cases half : isHalfBreak character rest with
          | false =>
              rw [normalizeBreaks_of_not_isHalfBreak half,
                skipSeparation_of_isBreak (by simpa using isEnd)]
              exact ⟨alike, passes.consWhole half, begins⟩
          | true =>
              have notFeed : (skipSeparation inBrackets false (mayBeginKey || !inBrackets)
                  rest).2.head? ≠ some '\n' :=
                fun feed => Bool.noConfusion (begins '\n' feed)
              refine ⟨?_, passes.ofHalf half notFeed, begins⟩
              rw [normalizeBreaks_of_isHalfBreak half, ← alike]
              -- Passing one line end or two makes no difference to where a key may begin.
              obtain ⟨-, later, rfl⟩ := eq_of_isHalfBreak half
              rw [normalizeBreaks_of_not_isHalfBreak rfl, skipSeparation_of_isBreak rfl,
                skipSeparation_of_isBreak rfl, Bool.or_assoc, Bool.or_self]
      | false =>
          rw [normalizeBreaks_cons_of_not_isBreak isEnd]
          simp only [skipSeparation, isEnd, Bool.false_eq_true, if_false]
          split
          · obtain ⟨alike, passes, begins⟩ := ih true mayBeginKey
            exact ⟨alike, passes.cons isEnd, begins⟩
          · split
            · obtain ⟨alike, passes, begins⟩ := ih false mayBeginKey
              exact ⟨alike, passes.cons isEnd, begins⟩
            · rw [unifyRest, normalizeBreaks_cons_of_not_isBreak isEnd]
              refine ⟨rfl, .refl _, ?_⟩
              rintro other ⟨⟩
              exact isEnd

theorem approach_alike (reader : TokenReader) :
    StepsAlike (fun cursor => Passes reader.cursor.rest cursor.rest ∧
        ∀ character ∈ cursor.rest.head?, isBreak character = false)
      reader.approach reader.unified.approach := by
  obtain ⟨alike, passes, begins⟩ := skipSeparation_normalizeBreaks reader.inBrackets false
    reader.mayBeginKey reader.cursor.rest
  have brackets : reader.unified.inBrackets = reader.inBrackets := rfl
  have may : reader.unified.mayBeginKey = reader.mayBeginKey := rfl
  have cursor_eq : reader.unified.cursor = reader.cursor.unified := rfl
  unfold approach
  simp only [brackets, may, cursor_eq, Cursor.unified_rest, alike, unifyRest]
  generalize skipSeparation reader.inBrackets false reader.mayBeginKey reader.cursor.rest = skipped
    at passes begins ⊢
  rw [Cursor.moveTo_unified passes]
  have moved_rest := Cursor.moveTo_rest_of_passes passes
  have stale := forgetStaleKeys_alike
    { reader with cursor := reader.cursor.moveTo skipped.2, mayBeginKey := skipped.1 }
  refine stale.bind fun next next_eq => ?_
  have column : next.unified.cursor.column = next.cursor.column := rfl
  simp only [endBlocks_unified, column]
  refine .passed ?_
  simp only [endBlocks_cursor, next_eq, moved_rest]
  exact ⟨passes, begins⟩

/-- The outcome of reading one more token in a text whose line ends are unified. -/
def Progress.unified : Progress → Progress
  | .more reader => .more reader.unified
  | .finished tokens => .finished tokens

/-- Whether a reader goes on at a later place. -/
def Progress.PassesFrom (text : List Char) : Progress → Prop
  | .more reader => Passes text reader.cursor.rest
  | .finished _ => True

theorem step_alike (reader : TokenReader) :
    FareAlike Progress.unified (Progress.PassesFrom reader.cursor.rest) reader.step
      reader.unified.step := by
  refine (approach_alike reader).bind fun next ⟨passes, begins⟩ => ?_
  have unified_rest : next.unified.cursor.rest = normalizeBreaks next.cursor.rest := rfl
  rw [unified_rest]
  cases rest_eq : next.cursor.rest with
  | nil =>
      simp only [normalizeBreaks, endBlocks_unified]
      refine (forgetKey_alike _).bind fun last _ => ?_
      exact .passed trivial
  | cons character rest =>
      have notBreak := begins character (by rw [rest_eq]; rfl)
      rw [normalizeBreaks_cons_of_not_isBreak notBreak]
      refine (readToken_alike rest_eq notBreak).bind fun last lastPasses => ?_
      exact .passed (passes.trans lastPasses)

theorem step_unified {outcome : Except Fault Progress} (step_eq : reader.step = outcome) :
    reader.unified.step = outcome.map Progress.unified := by
  rw [← step_eq, (step_alike reader).eq_map]

theorem length_lt_iff_of_step {next : TokenReader} (step_eq : reader.step = .ok (.more next)) :
    next.unified.cursor.rest.length < reader.unified.cursor.rest.length ↔
      next.cursor.rest.length < reader.cursor.rest.length := by
  have alike := step_alike reader
  rw [step_eq] at alike
  have passes : Passes reader.cursor.rest next.cursor.rest := alike.isGood
  exact passes.length_lt_iff

/-- A text has the same tokens from corresponding places on. -/
theorem allTokens_unified (reader : TokenReader) :
    reader.unified.allTokens = reader.allTokens := by
  fun_induction allTokens reader with
  | case1 reader fault step_eq =>
      rw [allTokens, step_unified step_eq]
      rfl
  | case2 reader tokens step_eq =>
      rw [allTokens, step_unified step_eq]
      rfl
  | case3 reader next step_eq shorter ih =>
      rw [allTokens, step_unified step_eq]
      exact (dif_pos ((length_lt_iff_of_step step_eq).mpr shorter)).trans ih
  | case4 reader next step_eq notShorter =>
      rw [allTokens, step_unified step_eq]
      exact dif_neg (mt (length_lt_iff_of_step step_eq).mp notShorter)

end TokenReader

theorem start_normalizeBreaks (text : List Char) :
    Cursor.start (normalizeBreaks text) = (Cursor.start text).unified := by
  cases text with
  | nil => rfl
  | cons character rest =>
      by_cases isMark : character = byteOrderMark
      · subst isMark
        rw [normalizeBreaks_cons_of_not_isBreak rfl]
        rfl
      · have notMark : readAs character ≠ byteOrderMark :=
          fun mark => isMark ((readAs_eq_iff rfl).mp mark)
        simp only [normalizeBreaks_cons, Cursor.start, if_neg isMark, if_neg notMark,
          Cursor.unified]

/-- A text has the tokens of the text with unified line ends. -/
theorem tokensOf_normalizeBreaks (text : List Char) :
    tokensOf (normalizeBreaks text) = tokensOf text := by
  rw [tokensOf, tokensOf, start_normalizeBreaks]
  exact TokenReader.allTokens_unified { cursor := .start text }

end UsageContracts.Yaml
