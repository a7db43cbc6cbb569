import UsageContracts.Proofs.Yaml.LineEnds.Plain
import UsageContracts.Yaml.Scalar.Block

/-!
# Line ends in block scalars

A block scalar keeps or folds the same lines in a text with unified line ends.
-/

namespace UsageContracts.Yaml

variable {character : Char} {rest text : List Char}

/-! ## Headers -/

/-- The end of a line is no indicator. -/
theorem not_indicator_of_isBreak (isEnd : isBreak character = true) :
    Chomping.ofIndicator? character = none ∧ character.isDigit = false := by
  have each : ∀ character ∈ breaks,
      Chomping.ofIndicator? character = none ∧ character.isDigit = false :=
    Text.forall_mem_of_all (by decide)
  exact each character (mem_breaks isEnd)

theorem takeChomping_normalizeBreaks (text : List Char) :
    takeChomping (normalizeBreaks text) = unifyRest (takeChomping text) ∧
      Passes text (takeChomping text).2 := by
  cases text with
  | nil => exact ⟨rfl, .refl []⟩
  | cons indicator rest =>
      cases isEnd : isBreak indicator with
      | true =>
          have otherEnd : isBreak (readAs indicator) = true := by simpa using isEnd
          rw [normalizeBreaks_cons, takeChomping, takeChomping, (not_indicator_of_isBreak isEnd).1,
            (not_indicator_of_isBreak otherEnd).1, ← normalizeBreaks_cons]
          exact ⟨rfl, .refl _⟩
      | false =>
          rw [normalizeBreaks_cons_of_not_isBreak isEnd, takeChomping, takeChomping]
          cases Chomping.ofIndicator? indicator with
          | some chomping => exact ⟨rfl, (Passes.refl rest).cons isEnd⟩
          | none =>
              rw [← normalizeBreaks_cons_of_not_isBreak isEnd]
              exact ⟨rfl, .refl _⟩

theorem takeIncrement_alike (text : List Char) :
    ReadsOnAlike text (takeIncrement text) (takeIncrement (normalizeBreaks text)) := by
  cases text with
  | nil => exact .passed (.refl [])
  | cons digit rest =>
      cases isEnd : isBreak digit with
      | true =>
          have otherEnd : isBreak (readAs digit) = true := by simpa using isEnd
          rw [normalizeBreaks_cons, takeIncrement, takeIncrement,
            (not_indicator_of_isBreak isEnd).2, (not_indicator_of_isBreak otherEnd).2,
            ← normalizeBreaks_cons]
          exact .passed (.refl _)
      | false =>
          rw [normalizeBreaks_cons_of_not_isBreak isEnd]
          refine .ite (fun _ => ?_) fun _ => ?_
          · cases incrementOf digit with
            | error fault => exact .failed fault
            | ok increment => exact .passed ((Passes.refl rest).cons isEnd)
          · rw [← normalizeBreaks_cons_of_not_isBreak isEnd]
            exact .passed (.refl _)

theorem readIndicators_alike (text : List Char) :
    ReadsOnAlike text (readIndicators text) (readIndicators (normalizeBreaks text)) := by
  have before := takeChomping_normalizeBreaks text
  unfold readIndicators
  simp only [before.1, unifyRest]
  refine (takeIncrement_alike (takeChomping text).2).bind ?_
  rintro ⟨increment, rest⟩ passes
  have passed := before.2.trans passes
  cases (takeChomping text).1 with
  | some chomping => exact .passed passed
  | none =>
      have after := takeChomping_normalizeBreaks rest
      simp only [unifyRest, after.1]
      exact .passed (passed.trans after.2)

theorem dropComment_normalizeBreaks (text : List Char) :
    dropComment (normalizeBreaks text) = normalizeBreaks (dropComment text) ∧
      Passes text (dropComment text) := by
  have spaces := passes_dropWhile keepsToLine_space text
  have comment := passes_dropWhile keepsToLine_not_isBreak (text.dropWhile (· == ' '))
  have mark := head?_normalizeBreaks_eq_iff (show isBreak '#' = false from rfl)
  simp only [dropComment, dropWhile_normalizeBreaks keepsToLine_space,
    dropWhile_normalizeBreaks keepsToLine_not_isBreak, mark]
  split
  · exact ⟨rfl, spaces.trans comment⟩
  · exact ⟨rfl, spaces⟩

theorem readLineEnd_alike (text : List Char) :
    FareAlike normalizeBreaks (Passes text) (readLineEnd text)
      (readLineEnd (normalizeBreaks text)) := by
  obtain ⟨alike, passes⟩ := dropComment_normalizeBreaks text
  rw [readLineEnd, readLineEnd, alike]
  generalize dropComment text = rest at passes
  cases rest with
  | nil => exact .passed passes
  | cons character rest =>
      rw [normalizeBreaks_cons]
      simp only [isBreak_readAs, afterBreak_readAs]
      exact .ite (fun _ => .passed (passes.trans (.afterBreak character rest)))
        fun _ => .failed .form

theorem readHeader_alike (text : List Char) :
    ReadsOnAlike text (readHeader text) (readHeader (normalizeBreaks text)) := by
  refine (readIndicators_alike text).bind ?_
  rintro ⟨header, rest⟩ passes
  simp only [unifyRest, endsOr_isSpaceOrBreak_normalizeBreaks]
  refine .ite (fun _ => ?_) fun _ => .failed .form
  exact (readLineEnd_alike rest).bind fun later passesLater => .passed (passes.trans passesLater)

/-! ## Lines -/

theorem leadingLines_normalizeBreaks (greatest column : Nat) (text : List Char) :
    leadingLines greatest column (normalizeBreaks text) =
        ((leadingLines greatest column text).1, (leadingLines greatest column text).2.1,
          (leadingLines greatest column text).2.2.1,
          normalizeBreaks (leadingLines greatest column text).2.2.2) ∧
      Passes text (leadingLines greatest column text).2.2.2 ∧
      (leadingLines greatest column text).2.2.2.head? ≠ some '\n' := by
  induction text generalizing greatest column with
  | nil => exact ⟨rfl, .refl [], by simp [leadingLines]⟩
  | cons character rest ih =>
      cases isEnd : isBreak character with
      | false =>
          have whole (others : List Char) := isHalfBreak_of_not_isBreak isEnd others
          rw [normalizeBreaks_cons_of_not_isBreak isEnd]
          simp only [leadingLines, whole, isEnd, Bool.false_eq_true, if_false]
          split
          · obtain ⟨alike, passes, notFeed⟩ := ih (max greatest (column + 1)) (column + 1)
            exact ⟨alike, passes.cons isEnd, notFeed⟩
          · rw [normalizeBreaks_cons_of_not_isBreak isEnd]
            exact ⟨rfl, .refl _, head?_ne_of_cons isEnd⟩
      | true =>
          cases half : isHalfBreak character rest with
          | true =>
              obtain ⟨alike, passes, notFeed⟩ := ih greatest column
              rw [normalizeBreaks_of_isHalfBreak half, leadingLines,
                if_neg (ne_of_isBreak isEnd rfl), if_pos half]
              exact ⟨alike, passes.ofHalf half notFeed, notFeed⟩
          | false =>
              obtain ⟨alike, passes, notFeed⟩ := ih greatest 0
              have otherEnd : isBreak (readAs character) = true := by simpa using isEnd
              rw [normalizeBreaks_of_not_isHalfBreak half]
              simp only [leadingLines, ne_of_isBreak isEnd (show isBreak ' ' = false from rfl),
                ne_of_isBreak otherEnd (show isBreak ' ' = false from rfl), half,
                isHalfBreak_readAs, isEnd, otherEnd, Bool.false_eq_true, if_false, if_true, alike,
                readAs_readAs, true_and]
              exact ⟨passes.consWhole half, notFeed⟩

theorem emptyLines_normalizeBreaks (indentation column : Nat) (text : List Char) :
    emptyLines indentation column (normalizeBreaks text) =
        ((emptyLines indentation column text).1, (emptyLines indentation column text).2.1,
          normalizeBreaks (emptyLines indentation column text).2.2) ∧
      Passes text (emptyLines indentation column text).2.2 ∧
      (emptyLines indentation column text).2.2.head? ≠ some '\n' := by
  induction text generalizing column with
  | nil => exact ⟨rfl, .refl [], by simp [emptyLines]⟩
  | cons character rest ih =>
      cases isEnd : isBreak character with
      | false =>
          have whole (others : List Char) := isHalfBreak_of_not_isBreak isEnd others
          rw [normalizeBreaks_cons_of_not_isBreak isEnd]
          simp only [emptyLines, whole, isEnd, Bool.false_eq_true, if_false]
          split
          · obtain ⟨alike, passes, notFeed⟩ := ih (column + 1)
            exact ⟨alike, passes.cons isEnd, notFeed⟩
          · rw [normalizeBreaks_cons_of_not_isBreak isEnd]
            exact ⟨rfl, .refl _, head?_ne_of_cons isEnd⟩
      | true =>
          have notSpace {other : Char} (isEnd : isBreak other = true) :
              ¬ (other = ' ' ∧ column < indentation) :=
            fun space => ne_of_isBreak isEnd (show isBreak ' ' = false from rfl) space.1
          cases half : isHalfBreak character rest with
          | true =>
              obtain ⟨alike, passes, notFeed⟩ := ih column
              rw [normalizeBreaks_of_isHalfBreak half, emptyLines, if_neg (notSpace isEnd),
                if_pos half]
              exact ⟨alike, passes.ofHalf half notFeed, notFeed⟩
          | false =>
              obtain ⟨alike, passes, notFeed⟩ := ih 0
              have otherEnd : isBreak (readAs character) = true := by simpa using isEnd
              rw [normalizeBreaks_of_not_isHalfBreak half]
              simp only [emptyLines, notSpace isEnd, notSpace otherEnd, half, isHalfBreak_readAs,
                isEnd, otherEnd, Bool.false_eq_true, if_false, if_true, alike, readAs_readAs,
                true_and]
              exact ⟨passes.consWhole half, notFeed⟩

theorem takeBreak_normalizeBreaks (text : List Char) :
    takeBreak (normalizeBreaks text) = unifyRest (takeBreak text) ∧
      Passes text (takeBreak text).2 := by
  cases text with
  | nil => exact ⟨rfl, .refl []⟩
  | cons character rest =>
      rw [normalizeBreaks_cons, takeBreak, takeBreak, readAs_readAs, afterBreak_readAs]
      exact ⟨rfl, .afterBreak character rest⟩

theorem lineJoint_normalizeBreaks (isFolded : Bool) (line lineEnd emptyEnds next : List Char) :
    lineJoint isFolded (normalizeBreaks line) lineEnd emptyEnds (normalizeBreaks next) =
      lineJoint isFolded line lineEnd emptyEnds next := by
  have begins (text : List Char) :
      ((normalizeBreaks text).head? != some ' ' && (normalizeBreaks text).head? != some '\t') =
        (text.head? != some ' ' && text.head? != some '\t') := by
    simp only [bne, head?_normalizeBreaks_beq (show isBreak ' ' = false from rfl),
      head?_normalizeBreaks_beq (show isBreak '\t' = false from rfl)]
  simp only [lineJoint, begins]

/-- The lines of a block in a text whose line ends are unified. -/
def BlockLines.unified (lines : BlockLines) : BlockLines :=
  { lines with rest := normalizeBreaks lines.rest }

theorem readLines_unified (isFolded : Bool) (indentation : Nat) (emptyEnds text : List Char) :
    readLines isFolded indentation emptyEnds (normalizeBreaks text) =
        (readLines isFolded indentation emptyEnds text).unified ∧
      Passes text (readLines isFolded indentation emptyEnds text).rest := by
  induction length_eq : text.length using Nat.strong_induction_on
    generalizing emptyEnds text with
  | _ length ih =>
  subst length_eq
  have lineAlike := passes_dropWhile keepsToLine_not_isBreak text
  have endAlike := takeBreak_normalizeBreaks (text.dropWhile (!isBreak ·))
  have emptyAlike :=
    emptyLines_normalizeBreaks indentation 0 (takeBreak (text.dropWhile (!isBreak ·))).2
  have passes := (lineAlike.trans endAlike.2).trans emptyAlike.2.1
  rw [readLines, readLines]
  simp only [takeWhile_normalizeBreaks keepsToLine_not_isBreak,
    dropWhile_normalizeBreaks keepsToLine_not_isBreak, endAlike.1, unifyRest, emptyAlike.1,
    lineJoint_normalizeBreaks, ne_eq, normalizeBreaks_eq_nil_iff, passes.length_lt_iff]
  split
  · next goesOn =>
      have later := ih _ goesOn.2.2
        (emptyLines indentation 0 (takeBreak (text.dropWhile (!isBreak ·))).2).1 _ rfl
      rw [later.1]
      exact ⟨rfl, passes.trans later.2⟩
  · exact ⟨rfl, passes⟩

/-! ## Whole blocks -/

theorem blockStart_normalizeBreaks (least : Nat) (increment : Option Nat) (text : List Char) :
    blockStart least increment (normalizeBreaks text) =
        ((blockStart least increment text).1, (blockStart least increment text).2.1,
          (blockStart least increment text).2.2.1,
          normalizeBreaks (blockStart least increment text).2.2.2) ∧
      Passes text (blockStart least increment text).2.2.2 := by
  cases increment with
  | none =>
      obtain ⟨alike, passes, -⟩ := leadingLines_normalizeBreaks 0 0 text
      simp only [blockStart, alike]
      exact ⟨trivial, passes⟩
  | some increment =>
      obtain ⟨alike, passes, -⟩ := emptyLines_normalizeBreaks (least + increment - 1) 0 text
      simp only [blockStart, alike]
      exact ⟨trivial, passes⟩

theorem readBlock_alike (isFolded : Bool) (least : Nat) (text : List Char) :
    ReadsOnAlike text (readBlock isFolded least text)
      (readBlock isFolded least (normalizeBreaks text)) := by
  refine (readHeader_alike text).bind ?_
  rintro ⟨header, afterHeader⟩ headerPasses
  obtain ⟨startAlike, startPasses⟩ := blockStart_normalizeBreaks least header.increment afterHeader
  simp only [unifyRest, startAlike]
  generalize blockStart least header.increment afterHeader = start at startPasses ⊢
  obtain ⟨linesAlike, linesPasses⟩ := readLines_unified isFolded start.2.1 start.1 start.2.2.2
  have passes := headerPasses.trans startPasses
  simp only [ne_eq, normalizeBreaks_eq_nil_iff, linesAlike]
  split
  · cases header.chomping <;> exact .passed (passes.trans linesPasses)
  · cases header.chomping <;> exact .passed passes

end UsageContracts.Yaml
