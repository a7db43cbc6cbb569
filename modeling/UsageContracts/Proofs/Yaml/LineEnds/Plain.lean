import UsageContracts.Proofs.Yaml.Cursor
import UsageContracts.Proofs.Yaml.LineEnds.Texts
import UsageContracts.Yaml.Scalar.Plain

/-!
# Line ends in plain scalars

A plain scalar has the same content in a text with unified line ends, and its
reading ends at the same line and column.
-/

namespace UsageContracts.Yaml

variable {character : Char} {rest text : List Char}

theorem keepsToLine_space : KeepsToLine (· == ' ') :=
  keepsToLine_of_breaks (Text.forall_mem_of_all (by decide))

theorem keepsToLine_not_isBreak : KeepsToLine (!isBreak ·) := by
  intro character isEnd
  simp [isEnd]

/-! ## Plain scalars -/

theorem isSeparation_of_isBreak (isEnd : isBreak character = true) :
    isSeparation character = true := by
  simp [isSeparation, isSpaceOrBreak, isEnd]

theorem endsPlain_normalizeBreaks (inBrackets : Bool) (character : Char) (rest : List Char) :
    endsPlain inBrackets character (normalizeBreaks rest) =
      endsPlain inBrackets character rest := by
  unfold endsPlain
  rw [endsOr_normalizeBreaks (by cases inBrackets <;> rfl) (by cases inBrackets <;> rfl)]

theorem plainChunk_normalizeBreaks (inBrackets : Bool) (text : List Char) :
    plainChunk inBrackets (normalizeBreaks text) = unifyRest (plainChunk inBrackets text) ∧
      Passes text (plainChunk inBrackets text).2 := by
  induction text with
  | nil => exact ⟨rfl, .refl []⟩
  | cons character rest ih =>
      cases isEnd : isBreak character with
      | true =>
          have ends (other : Char) (isEnd : isBreak other = true) (others : List Char) :
              endsPlain inBrackets other others = true := by
            simp [endsPlain, isSeparation_of_isBreak isEnd]
          rw [plainChunk, if_pos (ends character isEnd rest)]
          refine ⟨?_, .refl _⟩
          rw [unifyRest, normalizeBreaks_cons, plainChunk, if_pos (ends _ (by simpa using isEnd) _)]
      | false =>
          rw [normalizeBreaks_cons_of_not_isBreak isEnd, plainChunk, plainChunk,
            endsPlain_normalizeBreaks]
          split
          · rw [unifyRest, normalizeBreaks_cons_of_not_isBreak isEnd]
            exact ⟨rfl, .refl _⟩
          · rw [ih.1]
            exact ⟨rfl, ih.2.cons isEnd⟩

/-- A carriage return that a line feed completes is passed over by itself. -/
theorem head?_ne_of_cons (notBreak : isBreak character = false) :
    (character :: rest).head? ≠ some '\n' := by
  simpa using (ne_of_isBreak rfl notBreak).symm

theorem head?_ne_of_startsWithMarker (starts : startsWithMarker text = true) :
    text.head? ≠ some '\n' := by
  unfold startsWithMarker at starts
  split at starts
  · simp
  · simp
  · cases starts

theorem passLineEnds_normalizeBreaks (text : List Char) :
    passLineEnds (normalizeBreaks text) = unifyRest (passLineEnds text) ∧
      Passes text (passLineEnds text).2 ∧ (passLineEnds text).2.head? ≠ some '\n' := by
  induction text with
  | nil => exact ⟨rfl, .refl [], by simp [passLineEnds]⟩
  | cons character rest ih =>
      cases isEnd : isBreak character with
      | false =>
          have whole (others : List Char) := isHalfBreak_of_not_isBreak isEnd others
          rw [normalizeBreaks_cons_of_not_isBreak isEnd]
          simp only [passLineEnds, whole, isEnd, Bool.false_eq_true, or_false, if_false]
          split
          · exact ⟨ih.1, ih.2.1.cons isEnd, ih.2.2⟩
          · rw [unifyRest, normalizeBreaks_cons_of_not_isBreak isEnd]
            exact ⟨rfl, .refl _, head?_ne_of_cons isEnd⟩
      | true =>
          have notSpace : character ≠ ' ' := ne_of_isBreak isEnd rfl
          cases half : isHalfBreak character rest with
          | true =>
              rw [normalizeBreaks_of_isHalfBreak half, passLineEnds, if_pos (.inr half)]
              exact ⟨ih.1, ih.2.1.ofHalf half ih.2.2, ih.2.2⟩
          | false =>
              have otherNotSpace : readAs character ≠ ' ' :=
                ne_of_isBreak (by simpa using isEnd) rfl
              rw [normalizeBreaks_of_not_isHalfBreak half]
              simp only [passLineEnds, notSpace, otherNotSpace, half, isHalfBreak_readAs, isEnd,
                isBreak_readAs, Bool.false_eq_true, or_false, if_false, if_true,
                startsWithMarker_normalizeBreaks]
              split
              · next starts =>
                  exact ⟨rfl, .consWhole half (.refl rest), head?_ne_of_startsWithMarker starts⟩
              · rw [ih.1, readAs_readAs]
                exact ⟨rfl, ih.2.1.consWhole half, ih.2.2⟩

/-- White space that goes on up to the end of a line, or does not leave the line. -/
theorem plainGap_normalizeBreaks (text : List Char) :
    plainGap (normalizeBreaks text) =
        ((plainGap text).1, (plainGap text).2.1, normalizeBreaks (plainGap text).2.2) ∧
      Passes text (plainGap text).2.2 := by
  have blanks := passes_dropWhile keepsToLine_space text
  unfold plainGap
  rw [takeWhile_normalizeBreaks keepsToLine_space, dropWhile_normalizeBreaks keepsToLine_space]
  generalize text.dropWhile (· == ' ') = later at blanks ⊢
  cases later with
  | nil => exact ⟨rfl, blanks⟩
  | cons character rest =>
      rw [normalizeBreaks_cons]
      have passes := blanks.trans (.afterBreak character rest)
      have furthers := passLineEnds_normalizeBreaks (afterBreak character rest)
      simp only [isBreak_readAs, afterBreak_readAs, startsWithMarker_normalizeBreaks, readAs_readAs,
        furthers.1, unifyRest]
      split
      · split
        · exact ⟨rfl, passes⟩
        · have furtherPasses := passes.trans furthers.2.1
          generalize passLineEnds (afterBreak character rest) = outcome at furtherPasses ⊢
          rcases outcome with ⟨_ | further, rest⟩
          · exact ⟨rfl, furtherPasses⟩
          · exact ⟨rfl, furtherPasses⟩
      · rw [normalizeBreaks_cons]
        exact ⟨rfl, blanks⟩

/-! ### Cursors -/

/-- A cursor in a text whose line ends are unified. -/
def Cursor.unified (cursor : Cursor) : Cursor :=
  { cursor with rest := normalizeBreaks cursor.rest }

@[simp]
theorem Cursor.unified_rest (cursor : Cursor) :
    cursor.unified.rest = normalizeBreaks cursor.rest :=
  rfl

@[simp]
theorem Cursor.unified_column (cursor : Cursor) : cursor.unified.column = cursor.column :=
  rfl

theorem Cursor.foldl_pass_unified (passed : List Char) (cursor : Cursor) {rest : List Char}
    (rest_eq : cursor.rest = passed ++ rest)
    (whole : passed.getLast? = some '\r' → rest.head? ≠ some '\n') :
    (normalizeBreaks passed).foldl pass cursor.unified = (passed.foldl pass cursor).unified := by
  induction passed generalizing cursor with
  | nil => rfl
  | cons character passed ih =>
      have tail_eq : cursor.rest.tail = passed ++ rest := by rw [rest_eq]; rfl
      have later : passed.getLast? = some '\r' → rest.head? ≠ some '\n' := by
        intro last
        exact whole (by simp [List.getLast?_cons, last])
      have pass_rest : (cursor.pass character).rest = passed ++ rest := by
        rw [← tail_eq]
        simp only [pass]
        split
        · rfl
        · split <;> rfl
      have half_eq : isHalfBreak character (passed ++ rest) = isHalfBreak character passed :=
        isHalfBreak_append whole
      have passedLater := ih (cursor.pass character) pass_rest later
      cases half : isHalfBreak character passed with
      | false =>
          rw [normalizeBreaks_of_not_isHalfBreak half, List.foldl_cons, List.foldl_cons,
            ← passedLater]
          congr 1
          have unified_eq : normalizeBreaks cursor.rest =
              readAs character :: normalizeBreaks (passed ++ rest) := by
            rw [rest_eq, List.cons_append, normalizeBreaks_of_not_isHalfBreak (half_eq.trans half)]
          have mark_iff : readAs character = byteOrderMark ↔ character = byteOrderMark :=
            readAs_eq_iff rfl
          simp only [pass, unified, unified_eq, tail_eq, List.tail_cons, isBreak_readAs, half_eq,
            half, isHalfBreak_readAs, mark_iff]
          split
          · rfl
          · split <;> rfl
      | true =>
          obtain ⟨rfl, others, rfl⟩ := eq_of_isHalfBreak half
          have unified_eq : normalizeBreaks cursor.rest = normalizeBreaks cursor.rest.tail := by
            rw [tail_eq, rest_eq, List.cons_append,
              normalizeBreaks_of_isHalfBreak (half_eq.trans half)]
          have pass_unified : (cursor.pass '\r').unified =
              { cursor.unified with column := cursor.column + 1, offset := cursor.offset + 1 } := by
            simp only [unified, unified_eq, pass, half_eq, half, tail_eq]
            rfl
          rw [normalizeBreaks_of_isHalfBreak half, List.foldl_cons, ← passedLater,
            normalizeBreaks_of_not_isHalfBreak rfl, List.foldl_cons, List.foldl_cons, pass_unified]
          -- The column after the first half is lost, since the second one ends the line.
          rfl

theorem Cursor.moveTo_unified {cursor : Cursor} (passes : Passes cursor.rest rest) :
    cursor.unified.moveTo (normalizeBreaks rest) = (cursor.moveTo rest).unified := by
  rcases passes with ⟨passed, rest_eq, whole⟩
  have unified_eq : cursor.unified.rest = normalizeBreaks passed ++ normalizeBreaks rest := by
    rw [← normalizeBreaks_append whole, ← rest_eq]
    rfl
  rw [moveTo_eq_foldl unified_eq, moveTo_eq_foldl rest_eq,
    foldl_pass_unified passed cursor rest_eq whole]

theorem Cursor.moveTo_rest_of_passes {cursor : Cursor} (passes : Passes cursor.rest rest) :
    (cursor.moveTo rest).rest = rest := by
  rcases passes with ⟨passed, rest_eq, -⟩
  exact moveTo_rest rest_eq

/-! ### Whole scalars -/

/-- A plain scalar that ends in a text whose line ends are unified. -/
def PlainScalar.unified (scalar : PlainScalar) : PlainScalar :=
  { scalar with cursor := scalar.cursor.unified }

theorem head?_normalizeBreaks_eq_iff (notBreak : isBreak character = false) (text : List Char) :
    (normalizeBreaks text).head? = some character ↔ text.head? = some character := by
  cases text with
  | nil => rfl
  | cons other rest => simp [head?_normalizeBreaks, readAs_eq_iff notBreak]

theorem head?_normalizeBreaks_beq (notBreak : isBreak character = false) (text : List Char) :
    ((normalizeBreaks text).head? == some character) = (text.head? == some character) := by
  rw [Bool.eq_iff_iff, beq_iff_eq, beq_iff_eq, head?_normalizeBreaks_eq_iff notBreak]

theorem readPlain_unified (inBrackets : Bool) (indentation : Nat) (gap : List Char)
    (isLastOnLine : Bool) (cursor : Cursor) :
    readPlain inBrackets indentation gap isLastOnLine cursor.unified =
        (readPlain inBrackets indentation gap isLastOnLine cursor).unified ∧
      Passes cursor.rest
        (readPlain inBrackets indentation gap isLastOnLine cursor).cursor.rest := by
  induction length_eq : cursor.rest.length using Nat.strong_induction_on
    generalizing gap isLastOnLine cursor with
  | _ length ih =>
  subst length_eq
  have chunkAlike := plainChunk_normalizeBreaks inBrackets cursor.rest
  have gapAlike := plainGap_normalizeBreaks (plainChunk inBrackets cursor.rest).2
  rw [readPlain, readPlain]
  simp only [Cursor.unified_rest, chunkAlike.1, unifyRest, gapAlike.1]
  generalize plainChunk inBrackets cursor.rest = chunk at chunkAlike gapAlike ⊢
  have passes := chunkAlike.2.trans gapAlike.2
  generalize plainGap chunk.2 = gapAfter at gapAlike passes ⊢
  rcases gapAfter with ⟨nextGap, leavesLine, afterGap⟩
  obtain ⟨next, next_eq, next_unified⟩ : ∃ next, cursor.moveTo afterGap = next ∧
      cursor.unified.moveTo (normalizeBreaks afterGap) = next.unified :=
    ⟨_, rfl, Cursor.moveTo_unified passes⟩
  have next_rest : next.rest = afterGap := next_eq ▸ Cursor.moveTo_rest_of_passes passes
  subst next_rest
  have headAlike := head?_normalizeBreaks_beq (show isBreak '#' = false from rfl) next.rest
  simp only [next_eq, next_unified, Cursor.unified_rest, Cursor.unified_column,
    passes.length_lt_iff, headAlike]
  split
  · exact ⟨rfl, .refl _⟩
  · split
    · next shorter =>
        split
        · exact ⟨rfl, passes⟩
        · have later := ih next.rest.length shorter nextGap leavesLine next rfl
          rw [later.1]
          exact ⟨rfl, passes.trans later.2⟩
    · exact ⟨rfl, passes⟩

end UsageContracts.Yaml
