import UsageContracts.Proofs.Json.Source
import UsageContracts.Proofs.Text.Numeral
import UsageContracts.Proofs.Yaml.LineEnds.Quoted

/-!
# Reading JSON strings

A JSON string is a scalar between double quotation marks that stands on one line,
unless it holds a special line separator.  The escapes of JSON are among those that
are read.
-/

namespace UsageContracts.Yaml

open Json (Piece Pieces)

/-! ## Single code points -/

theorem readDoubleQuoted_blank (content : Text) (passed rest : List Char) :
    readDoubleQuoted content { passed } (' ' :: rest) =
      readDoubleQuoted content { passed := ' ' :: passed } rest := by
  rw [readDoubleQuoted_cons (by decide)]
  rfl

theorem readDoubleQuoted_plain {character : Char} (notQuote : character ≠ '"')
    (notBackslash : character ≠ '\\') (notBlank : character ≠ ' ' ∧ character ≠ '\t')
    (notBreak : isBreak character = false) (content : Text) (gap : Gap) (rest : List Char) :
    readDoubleQuoted content gap (character :: rest) =
      readDoubleQuoted (.scalar character :: (gap.text.reverse ++ content)) {} rest := by
  rw [readDoubleQuoted_cons notBackslash, if_neg notQuote, if_neg (not_or.mpr notBlank),
    isHalfBreak_of_not_isBreak notBreak, notBreak]
  rfl

theorem readDoubleQuoted_simpleEscape {escaped character : Char}
    (notBreak : isBreak escaped = false) (escape_eq : simpleEscape? escaped = some character)
    (content : Text) (gap : Gap) (rest : List Char) :
    readDoubleQuoted content gap ('\\' :: escaped :: rest) =
      readDoubleQuoted (.scalar character :: (gap.text.reverse ++ content)) {} rest := by
  have notNumbered (count : Nat) : (escaped, count) ∉ escapeLengths := by
    intro numbered
    rw [simpleEscape?_eq_none numbered] at escape_eq
    cases escape_eq
  rw [readDoubleQuoted_escaped notNumbered (isHalfBreak_of_not_isBreak notBreak rest), notBreak,
    escape_eq]
  rfl

/-- An escape by number is read as the code point with the number. -/
theorem readDoubleQuoted_number {digits : List Char} {point : CodePoint}
    (isNumber : digits.length = 4 ∧ Text.hexadecimalNumber? digits = some point.number)
    (content : Text) (gap : Gap) (rest : List Char) :
    readDoubleQuoted content gap ('\\' :: 'u' :: (digits ++ rest)) =
      readDoubleQuoted (point :: (gap.text.reverse ++ content)) {} rest := by
  rcases isNumber with ⟨length_eq, value_eq⟩
  have point_eq : numberedPoint digits = .ok point := by
    rw [numberedPoint, value_eq]
    simp only [CodePoint.ofNumber?_number]
  rw [readDoubleQuoted_numbered (by rw [length_eq]; decide), point_eq]
  rfl

/-! ## Strings -/

/-- Whether what stands for a code point may stand in a string between double
quotation marks, on the same line. -/
def IsOnLine : Piece → Prop
  | .plain character _ => isAllowed character = true ∧ character ≠ '\u0085' ∧
      character ≠ '\u2028' ∧ character ≠ '\u2029'
  | _ => True

instance : ∀ piece : Piece, Decidable (IsOnLine piece)
  | .plain _ _ => inferInstanceAs (Decidable (_ ∧ _))
  | .letter _ _ => inferInstanceAs (Decidable True)
  | .number _ _ _ => inferInstanceAs (Decidable True)

/-- A printable character may stand in a string, on the same line. -/
theorem isOnLine_printable {character : Char} (isPlain) (small : character.toNat < 0x7F) :
    IsOnLine (.plain character isPlain) := by
  have each : ∀ number < 0x7F, ' ' ≤ Char.ofNat number →
      isAllowed (Char.ofNat number) = true ∧ Char.ofNat number ≠ '\u0085' ∧
        Char.ofNat number ≠ '\u2028' ∧ Char.ofNat number ≠ '\u2029' := by
    decide
  have onLine := each character.toNat small
  rw [Char.ofNat_toNat] at onLine
  exact onLine isPlain.1

theorem isBreak_eq_false {character : Char} (notControl : ' ' ≤ character)
    (onLine : character ≠ '\u0085' ∧ character ≠ '\u2028' ∧ character ≠ '\u2029') :
    isBreak character = false := by
  have notLineEnd : character ≠ '\n' ∧ character ≠ '\r' := by
    constructor <;> (rintro rfl; revert notControl; decide)
  simp [isBreak, notLineEnd, onLine]

theorem readDoubleQuoted_letter {escape : Char × Char} (isEscape : escape ∈ Json.escapeLetters)
    (content : Text) (gap : Gap) (rest : List Char) :
    readDoubleQuoted content gap ('\\' :: escape.1 :: rest) =
      readDoubleQuoted (.scalar escape.2 :: (gap.text.reverse ++ content)) {} rest := by
  have each : ∀ escape ∈ Json.escapeLetters,
      isBreak escape.1 = false ∧ simpleEscape? escape.1 = some escape.2 := by
    decide
  rcases each escape isEscape with ⟨notBreak, escape_eq⟩
  exact readDoubleQuoted_simpleEscape notBreak escape_eq content gap rest

/-- What stands for a code point other than a space is read as the code point. -/
theorem readDoubleQuoted_piece {piece : Piece} (onLine : IsOnLine piece)
    (notSpace : piece.characters ≠ [' ']) (content : Text) (gap : Gap) (rest : List Char) :
    readDoubleQuoted content gap (piece.characters ++ rest) =
      readDoubleQuoted (piece.point :: (gap.text.reverse ++ content)) {} rest := by
  cases piece with
  | plain character isPlain =>
      have notTab : character ≠ '\t' := by
        rintro rfl
        revert isPlain
        decide
      exact readDoubleQuoted_plain isPlain.2.1 isPlain.2.2
        ⟨by simpa [Piece.characters] using notSpace, notTab⟩
        (isBreak_eq_false isPlain.1 onLine.2) content gap rest
  | letter escape isEscape => exact readDoubleQuoted_letter isEscape content gap rest
  | number digits point isNumber => exact readDoubleQuoted_number isNumber content gap rest

theorem readDoubleQuoted_flatMap_pieces {pieces : Pieces}
    (onLine : ∀ piece ∈ pieces, IsOnLine piece) (content : Text) (passed rest : List Char) :
    readDoubleQuoted content { passed } (pieces.flatMap Piece.characters ++ '"' :: rest) =
      .ok (content.reverse ++ Text.ofCharacters passed.reverse ++ pieces.content, rest) := by
  induction pieces generalizing content passed with
  | nil =>
      rw [List.flatMap_nil, List.nil_append, readDoubleQuoted]
      · simp [Gap.text, Pieces.content]
      all_goals simp
  | cons piece pieces ih =>
      have restOnLine : ∀ other ∈ pieces, IsOnLine other :=
        fun other member => onLine other (List.mem_cons_of_mem _ member)
      rw [List.flatMap_cons, List.append_assoc]
      by_cases space : piece.characters = [' ']
      · have point_eq : piece.point = .scalar ' ' := by
          cases piece with
          | plain character isPlain => simpa [Piece.characters, Piece.point] using space
          | letter escape isEscape => simp [Piece.characters] at space
          | number digits point isNumber => simp [Piece.characters] at space
        rw [space, List.cons_append, List.nil_append, readDoubleQuoted_blank, ih restOnLine]
        simp [Text.ofCharacters, Pieces.content, point_eq]
      · rw [readDoubleQuoted_piece (onLine piece List.mem_cons_self) space, ih restOnLine]
        simp [Gap.text, Pieces.content]

/-- What follows the opening quotation mark of a JSON string is read as the text for
which the string stands. -/
theorem readDoubleQuoted_pieces {pieces : Pieces} (onLine : ∀ piece ∈ pieces, IsOnLine piece)
    (rest : List Char) :
    ∃ after, pieces.characters = '"' :: after ∧
      readDoubleQuoted [] {} (after ++ rest) = .ok (pieces.content, rest) := by
  refine ⟨pieces.flatMap Piece.characters ++ ['"'], rfl, ?_⟩
  rw [List.append_assoc, List.cons_append, List.nil_append]
  exact readDoubleQuoted_flatMap_pieces onLine [] [] rest

/-! ## Characters -/

/-- Whether a character may stand in a text and does not end a line. -/
structure IsInLine (character : Char) : Prop where
  isAllowed : isAllowed character = true
  notBreak : isBreak character = false

instance (character : Char) : Decidable (IsInLine character) :=
  decidable_of_iff (isAllowed character = true ∧ isBreak character = false)
    ⟨fun ⟨isAllowed, notBreak⟩ => ⟨isAllowed, notBreak⟩,
      fun inLine => ⟨inLine.isAllowed, inLine.notBreak⟩⟩

theorem isInLine_of_hexadecimalDigit? {digit : Char}
    (isDigit : (Text.hexadecimalDigit? digit).isSome = true) : IsInLine digit := by
  have each : ∀ number < 128, (Text.hexadecimalDigit? (Char.ofNat number)).isSome = true →
      IsInLine (Char.ofNat number) := by
    decide
  have below {limit : Char} (le : digit ≤ limit) (small : limit.toNat < 128) :
      digit.toNat < 128 :=
    Nat.lt_of_le_of_lt (show digit.toNat ≤ limit.toNat from le) small
  have small : digit.toNat < 128 := by
    unfold Text.hexadecimalDigit? at isDigit
    split at isDigit
    · next bounds => exact below bounds.2 (by decide)
    split at isDigit
    · next bounds => exact below bounds.2 (by decide)
    split at isDigit
    · next bounds => exact below bounds.2 (by decide)
    · cases isDigit
  have inLine := each digit.toNat small
  rw [Char.ofNat_toNat] at inLine
  exact inLine isDigit

theorem isInLine_piece {piece : Piece} (onLine : IsOnLine piece) :
    ∀ character ∈ piece.characters, IsInLine character := by
  intro character member
  cases piece with
  | plain plainCharacter isPlain =>
      obtain rfl := List.mem_singleton.mp member
      exact ⟨onLine.1, isBreak_eq_false isPlain.1 onLine.2⟩
  | letter escape isEscape =>
      have each : ∀ escape ∈ Json.escapeLetters, IsInLine escape.1 := by
        decide
      simp only [Piece.characters, List.mem_cons, List.not_mem_nil, or_false] at member
      rcases member with rfl | rfl
      · decide
      · exact each escape isEscape
  | number digits point isNumber =>
      simp only [Piece.characters, List.mem_cons] at member
      rcases member with rfl | rfl | inDigits
      · decide
      · decide
      · exact isInLine_of_hexadecimalDigit?
          (Text.isSome_of_hexadecimalNumber? isNumber.2 character inDigits)

/-- Strings stand on one line. -/
theorem isInLine_pieces {pieces : Pieces} (onLine : ∀ piece ∈ pieces, IsOnLine piece) :
    ∀ character ∈ pieces.characters, IsInLine character := by
  intro character member
  simp only [Pieces.characters, List.mem_cons, List.mem_append, List.mem_flatMap,
    List.not_mem_nil, or_false] at member
  rcases member with rfl | ⟨piece, inPieces, inPiece⟩ | rfl
  · decide
  · exact isInLine_piece (onLine piece inPieces) character inPiece
  · decide

end UsageContracts.Yaml
