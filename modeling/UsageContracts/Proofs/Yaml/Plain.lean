import UsageContracts.Proofs.Number.Numeral
import UsageContracts.Proofs.Yaml.Cursor
import UsageContracts.Proofs.Yaml.LineEnds.Texts
import UsageContracts.Yaml.Token.Sequence

/-!
# Reading plain scalars between brackets

A plain scalar between brackets that is a single word ends before white space, a
comma or a closing bracket.  The white space after it is passed over, whether the
scalar ends there or not.
-/

namespace UsageContracts.Yaml

/-! ## Characters -/

/-- Whether a character separates the parts of a text. -/
def IsSpacing (character : Char) : Prop :=
  character = ' ' ∨ character = '\n'

/-- Whether a character ends a value between brackets. -/
def EndsFlow (character : Char) : Prop :=
  character = ',' ∨ character = ']' ∨ character = '\x7d'

/-- Whether a character is part of a word wherever it stands. -/
def IsWordPart (character : Char) : Prop :=
  isSeparation character = false ∧ isBracketOrComma character = false ∧ character ≠ ':' ∧
    character ≠ '?'

instance (character : Char) : Decidable (IsWordPart character) :=
  inferInstanceAs (Decidable (_ ∧ _))

theorem isWordPart_of_isNumeric {character : Char} (isNumeric : IsNumeric character) :
    IsWordPart character := by
  have each : ∀ character ∈ "0123456789+-.eE".toList, IsWordPart character :=
    Text.forall_mem_of_all (by decide)
  exact each character isNumeric

variable {spacing rest : List Char} {terminator : Char}

theorem EndsFlow.notSpacing (ends : EndsFlow terminator) :
    isBreak terminator = false ∧ terminator ≠ ' ' := by
  rcases ends with rfl | rfl | rfl <;> decide

/-! ## Words -/

theorem endsPlain_spacing (isSpacing : ∀ character ∈ spacing, IsSpacing character)
    (ends : EndsFlow terminator) :
    ∃ character after, spacing ++ terminator :: rest = character :: after ∧
      endsPlain true character after = true := by
  cases spacing with
  | nil =>
      refine ⟨terminator, rest, rfl, ?_⟩
      rcases ends with rfl | rfl | rfl <;> simp [endsPlain, isBracketOrComma]
  | cons blank spacing =>
      refine ⟨blank, _, rfl, ?_⟩
      rcases isSpacing blank List.mem_cons_self with rfl | rfl <;>
        simp [endsPlain, isSeparation, isSpaceOrBreak, isBreak]

theorem plainChunk_word {word : List Char} (isWord : ∀ character ∈ word, IsWordPart character)
    (isSpacing : ∀ character ∈ spacing, IsSpacing character) (ends : EndsFlow terminator) :
    plainChunk true (word ++ (spacing ++ terminator :: rest)) =
      (word, spacing ++ terminator :: rest) := by
  induction word with
  | nil =>
      obtain ⟨character, after, text_eq, ends_eq⟩ := @endsPlain_spacing _ rest _ isSpacing ends
      rw [List.nil_append, text_eq, plainChunk, if_pos ends_eq]
  | cons character word ih =>
      rcases isWord character List.mem_cons_self with
        ⟨notSeparation, notBracket, notColon, notQuestion⟩
      have goesOn (after : List Char) : endsPlain true character after = false := by
        simp [endsPlain, notSeparation, notBracket, notColon, notQuestion]
      rw [List.cons_append, plainChunk, goesOn,
        ih fun other member => isWord other (List.mem_cons_of_mem _ member)]
      rfl

/-! ## White space after a word -/

theorem startsWithMarker_spacing (isSpacing : ∀ character ∈ spacing, IsSpacing character)
    (ends : EndsFlow terminator) : startsWithMarker (spacing ++ terminator :: rest) = false := by
  cases spacing with
  | nil => rcases ends with rfl | rfl | rfl <;> rfl
  | cons blank spacing => rcases isSpacing blank List.mem_cons_self with rfl | rfl <;> rfl

theorem passLineEnds_spacing (isSpacing : ∀ character ∈ spacing, IsSpacing character)
    (ends : EndsFlow terminator) :
    ∃ further, passLineEnds (spacing ++ terminator :: rest) =
      (some further, terminator :: rest) := by
  induction spacing with
  | nil =>
      exact ⟨[], by
        simp [passLineEnds, ends.notSpacing, isHalfBreak_of_not_isBreak ends.notSpacing.1]⟩
  | cons blank spacing ih =>
      have restSpacing : ∀ character ∈ spacing, IsSpacing character :=
        fun other member => isSpacing other (List.mem_cons_of_mem blank member)
      rcases ih restSpacing with ⟨further, pass_eq⟩
      rcases isSpacing blank List.mem_cons_self with rfl | rfl
      · exact ⟨further, by simp [passLineEnds, pass_eq]⟩
      · exact ⟨'\n' :: further, by
          simp [passLineEnds, isBreak, readAs, isHalfBreak_of_ne,
            startsWithMarker_spacing restSpacing ends, pass_eq]⟩

theorem dropWhile_spacing (isSpacing : ∀ character ∈ spacing, IsSpacing character)
    (ends : EndsFlow terminator) :
    (spacing ++ terminator :: rest).dropWhile (· == ' ') = terminator :: rest ∨
      ∃ further, (∀ character ∈ further, IsSpacing character) ∧
        (spacing ++ terminator :: rest).dropWhile (· == ' ') =
          '\n' :: (further ++ terminator :: rest) := by
  induction spacing with
  | nil => exact .inl (List.dropWhile_cons_of_neg (by simp [ends.notSpacing]))
  | cons blank spacing ih =>
      have restSpacing : ∀ character ∈ spacing, IsSpacing character :=
        fun other member => isSpacing other (List.mem_cons_of_mem blank member)
      rcases isSpacing blank List.mem_cons_self with rfl | rfl
      · simpa using ih restSpacing
      · exact .inr ⟨spacing, restSpacing, by simp⟩

/-- The white space after a word is passed over. -/
theorem plainGap_spacing (isSpacing : ∀ character ∈ spacing, IsSpacing character)
    (ends : EndsFlow terminator) :
    ∃ gap leavesLine,
      plainGap (spacing ++ terminator :: rest) = (gap, leavesLine, terminator :: rest) := by
  unfold plainGap
  rcases @dropWhile_spacing _ rest _ isSpacing ends with
    drop_eq | ⟨further, furtherSpacing, drop_eq⟩
  · exact ⟨_, _, by simp only [drop_eq, ends.notSpacing.1]; rfl⟩
  · rcases @passLineEnds_spacing _ rest _ furtherSpacing ends with ⟨lineEnds, pass_eq⟩
    have isBreak_eq : isBreak '\n' = true := rfl
    have after_eq (text : List Char) : afterBreak '\n' text = text := rfl
    refine ⟨Gap.fold (readAs '\n') lineEnds, true, ?_⟩
    simp only [drop_eq, isBreak_eq, after_eq, if_true, startsWithMarker_spacing furtherSpacing ends,
      Bool.false_eq_true, if_false, pass_eq]

/-! ## Scalars -/

theorem readPlain_terminator (ends : EndsFlow terminator) {cursor : Cursor}
    (rest_eq : cursor.rest = terminator :: rest) (indentation : Nat) (gap : List Char)
    (isLastOnLine : Bool) :
    readPlain true indentation gap isLastOnLine cursor =
      { content := [], cursor, isLastOnLine } := by
  have chunk_eq : plainChunk true (terminator :: rest) = ([], terminator :: rest) :=
    @plainChunk_word [] rest _ [] (List.forall_mem_nil _) (List.forall_mem_nil _) ends
  rw [readPlain, rest_eq, chunk_eq]
  rfl

/-- A word is a whole plain scalar. -/
theorem readPlain_word {word : List Char} (notEmpty : word ≠ [])
    (isWord : ∀ character ∈ word, IsWordPart character)
    (isSpacing : ∀ character ∈ spacing, IsSpacing character) (ends : EndsFlow terminator)
    {cursor : Cursor} (rest_eq : cursor.rest = word ++ (spacing ++ terminator :: rest))
    (indentation : Nat) :
    ∃ isLastOnLine, readPlain true indentation [] false cursor =
      { content := word, cursor := cursor.moveTo (terminator :: rest), isLastOnLine } := by
  have chunk_eq := @plainChunk_word spacing rest _ _ isWord isSpacing ends
  rcases @plainGap_spacing _ rest _ isSpacing ends with ⟨gap, leavesLine, gap_eq⟩
  have next_rest : (cursor.moveTo (terminator :: rest)).rest = terminator :: rest :=
    Cursor.moveTo_rest (by rw [rest_eq, List.append_assoc])
  have shorter : (cursor.moveTo (terminator :: rest)).rest.length < cursor.rest.length := by
    have positive := List.length_pos_iff.mpr notEmpty
    rw [next_rest, rest_eq, List.length_append, List.length_append]
    omega
  have notNil : word.isEmpty = false := by
    simpa using notEmpty
  rw [rest_eq] at shorter
  refine ⟨leavesLine, ?_⟩
  unfold readPlain
  simp only [rest_eq, chunk_eq, notNil, Bool.false_eq_true, if_false, gap_eq, shorter, dite_true]
  split
  · rfl
  -- The scalar could go on after the gap, but nothing of it comes there.
  · rw [readPlain_terminator ends next_rest]
    simp

end UsageContracts.Yaml
