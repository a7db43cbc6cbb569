import Mathlib.Data.List.TakeDrop
import UsageContracts.Json.Read
import UsageContracts.Proofs.Document.Lookup
import UsageContracts.Proofs.Json.Source
import UsageContracts.Proofs.Outcome
import UsageContracts.Proofs.Text.Numeral

/-!
# Reading JSON text

From the text of a tree its value is read, whatever its white space, its numerals
and its escapes are.  Two things are left out: numerals of integers that are too
long to be read, and escapes of the halves of surrogate pairs, which are joined.
-/

namespace UsageContracts.Json

/-! ## Rules -/

/-- What a reader asks of the parts of a text. -/
def readable : Source.Rules where
  number decimal := decimal.IsInteger → decimal.whole.characters.length ≤ longestInteger
  string pieces := ∀ piece ∈ pieces, ∀ half, piece.point ≠ .surrogate half

/-- Whether a text holds no integer that is too long to be read and no escape of a
half of a surrogate pair, and the names of each object differ. -/
abbrev Source.IsReadable (source : Source) : Prop :=
  source.Obeys readable

/-! ## White space -/

theorem isSpace_character (blank : Blank) : isSpace blank.character = true := by
  cases blank <;> rfl

theorem skipSpace_spacing (spacing : Spacing) (rest : Text) :
    skipSpace (Text.ofCharacters spacing.characters ++ rest) = skipSpace rest := by
  apply List.dropWhile_append_of_pos
  intro point member
  rcases List.mem_map.mp member with ⟨character, inSpacing, rfl⟩
  rcases List.mem_map.mp inSpacing with ⟨blank, -, rfl⟩
  exact isSpace_character blank

theorem skipSpace_cons {point : CodePoint} (notSpace : isSpace point = false) (rest : Text) :
    skipSpace (point :: rest) = point :: rest :=
  List.dropWhile_cons_of_neg (by simp [notSpace])

/-! ## Strings -/

theorem escaped?_letter {escape : Char × Char} (isEscape : escape ∈ escapeLetters) :
    escape.1 ≠ 'u' ∧ escaped? escape.1 = some (.scalar escape.2) := by
  have each : ∀ escape ∈ escapeLetters,
      escape.1 ≠ 'u' ∧ escaped? escape.1 = some (.scalar escape.2) := by
    decide
  exact each escape isEscape

theorem numberPoint_eq {point : CodePoint} (notHalf : ∀ half, point ≠ .surrogate half)
    (rest : Text) : numberPoint point.number rest = .ok (point, rest) := by
  have outside : ¬ (0xD800 ≤ point.number ∧ point.number < 0xDC00 ∧ 6 < rest.length) := by
    cases point with
    | surrogate half => exact (notHalf half rfl).elim
    | scalar character =>
        have valid : character.toNat < 0xD800 ∨ 0xDFFF < character.toNat ∧
            character.toNat < 0x110000 :=
          character.valid
        simp only [CodePoint.number]
        omega
  simp only [numberPoint, outside, if_false, CodePoint.ofNumber?_number, Option.getD_some]

theorem fourDigits?_eq {digits : List Char} {number : Nat} (length_eq : digits.length = 4)
    (number_eq : Text.hexadecimalNumber? digits = some number) {rest : Text}
    (notEmpty : rest ≠ []) :
    fourDigits? (Text.ofCharacters digits ++ rest) = some (number, rest) := by
  match digits, length_eq with
  | [d₁, d₂, d₃, d₄], _ =>
      have characters_eq : Text.characters? [.scalar d₁, .scalar d₂, .scalar d₃, .scalar d₄] =
          some [d₁, d₂, d₃, d₄] :=
        rfl
      simp [Text.ofCharacters, fourDigits?, notEmpty, characters_eq, number_eq]

/-- What stands for a code point is read as the code point. -/
theorem readString_piece (start steps : Nat) {piece : Piece}
    (notHalf : ∀ half, piece.point ≠ .surrogate half) {rest : Text} (notEmpty : rest ≠ []) :
    readString start (steps + 1) (Text.ofCharacters piece.characters ++ rest) =
      (readString start steps rest).map fun (points, rest) => (piece.point :: points, rest) := by
  cases piece with
  | plain character isPlain =>
      rcases isPlain with ⟨lower, notQuote, notBackslash⟩
      have notControl : ¬ (CodePoint.scalar character).number < 0x20 :=
        Nat.not_lt.mpr lower
      simp [Piece.characters, Piece.point, Text.ofCharacters, readString, notQuote, notBackslash,
        notControl]
  | letter escape isEscape =>
      rcases escaped?_letter isEscape with ⟨notNumber, escaped_eq⟩
      have escape_eq : readEscape (.scalar escape.1 :: rest) = .ok (.scalar escape.2, rest) := by
        rw [readEscape]
        · simp only [escaped_eq]
        · simpa using notNumber
      simp [Piece.characters, Piece.point, Text.ofCharacters, readString, escape_eq]
  | number digits point isNumber =>
      have digits_eq := fourDigits?_eq isNumber.1 isNumber.2 notEmpty
      have escape_eq : readEscape (.scalar 'u' :: (Text.ofCharacters digits ++ rest)) =
          .ok (point, rest) := by
        rw [readEscape]
        simp only [digits_eq]
        exact numberPoint_eq notHalf rest
      show readString start (steps + 1)
        (.scalar '\\' :: .scalar 'u' :: (Text.ofCharacters digits ++ rest)) = _
      simp [readString, escape_eq, Piece.point]

theorem readString_pieces (start : Nat) {pieces : Pieces}
    (readableString : readable.string pieces) {steps : Nat} (enough : pieces.length < steps)
    (rest : Text) :
    readString start steps
        (Text.ofCharacters (pieces.flatMap Piece.characters) ++ .scalar '"' :: rest) =
      .ok (pieces.content, rest) := by
  induction pieces generalizing steps with
  | nil =>
      obtain ⟨steps, rfl⟩ : ∃ less, steps = less + 1 := ⟨steps - 1, by omega⟩
      rfl
  | cons piece pieces ih =>
      obtain ⟨steps, rfl⟩ : ∃ less, steps = less + 1 := ⟨steps - 1, by omega⟩
      rw [List.flatMap_cons, Text.ofCharacters_append, List.append_assoc,
        readString_piece start steps (readableString piece List.mem_cons_self) (by simp),
        ih (fun other member => readableString other (List.mem_cons_of_mem _ member))
          (by simpa using enough)]
      rfl

theorem length_le_length_characters (pieces : Pieces) :
    pieces.length ≤ (pieces.flatMap Piece.characters).length := by
  induction pieces with
  | nil => exact Nat.le_refl _
  | cons piece pieces ih =>
      have positive : 0 < piece.characters.length := by
        cases piece <;> simp [Piece.characters]
      rw [List.flatMap_cons, List.length_append, List.length_cons]
      omega

/-- A string is read as the text for which it stands. -/
theorem readQuoted_pieces {pieces : Pieces} (readableString : readable.string pieces)
    (rest : Text) :
    ∃ after : Text, Text.ofCharacters pieces.characters ++ rest = .scalar '"' :: after ∧
      readQuoted after = .ok (pieces.content, rest) := by
  refine ⟨Text.ofCharacters (pieces.flatMap Piece.characters) ++ .scalar '"' :: rest, ?_, ?_⟩
  · simp [Pieces.characters]
  · apply readString_pieces _ readableString
    have bound := length_le_length_characters pieces
    simp only [List.length_append, List.length_cons, Text.length_ofCharacters]
    omega

/-! ## Numerals -/

/-- Whether no numeral goes on at the beginning of a text. -/
def EndsNumeral (rest : Text) : Prop :=
  ∀ character, IsNumeric character → rest.head? ≠ some (.scalar character)

theorem isDigit_scalar (character : Char) : isDigit character = character.isDigit := by
  simp [isDigit, Char.isDigit, CodePoint.number, UInt32.le_iff_toNat_le]
  rfl

theorem EndsNumeral.isDigit_eq_false {rest : Text} (ends : EndsNumeral rest) :
    ∀ point ∈ rest.head?, isDigit point = false := by
  intro point head
  cases point with
  | scalar character =>
      rw [isDigit_scalar, Bool.eq_false_iff]
      exact fun isDigit => ends character (isNumeric_of_isDigit isDigit) head
  | surrogate half =>
      have above : ¬ (CodePoint.surrogate half).number ≤ 0x39 := by
        simp only [CodePoint.number]
        omega
      simp [isDigit, above]

theorem splitDigits_eq (digits : Digits) {rest : Text}
    (stops : ∀ point ∈ rest.head?, isDigit point = false) :
    splitDigits (Text.ofCharacters digits.characters ++ rest) =
      (Text.ofCharacters digits.characters, rest) := by
  have inRun : ∀ point ∈ Text.ofCharacters digits.characters, isDigit point = true := by
    intro point member
    rcases List.mem_map.mp member with ⟨digit, inDigits, rfl⟩
    rw [isDigit_scalar, digits.areDigits digit inDigits]
  rw [splitDigits, List.span_eq_takeWhile_dropWhile, Text.takeWhile_append_of_stop inRun stops,
    Text.dropWhile_append_of_stop inRun stops]

theorem isEmpty_ofCharacters (digits : Digits) :
    (Text.ofCharacters digits.characters).isEmpty = false := by
  simpa [Text.ofCharacters] using digits.notEmpty

section

variable (decimal : DecimalText) {rest : Text}

theorem splitWhole_eq (stops : ∀ point ∈ rest.head?, isDigit point = false) :
    splitWhole (Text.ofCharacters decimal.whole.characters ++ rest) =
      (Text.ofCharacters decimal.whole.characters, rest) := by
  by_cases zero : decimal.whole.characters.head? = some '0'
  · rw [decimal.noZeroAhead zero]
    rfl
  · unfold splitWhole
    split
    · next text_eq =>
        rcases List.exists_cons_of_ne_nil decimal.whole.notEmpty with ⟨first, others, whole_eq⟩
        rw [whole_eq] at text_eq zero
        obtain ⟨rfl, -⟩ : first = '0' ∧ _ := by simpa using text_eq
        exact (zero rfl).elim
    · exact splitDigits_eq decimal.whole stops

theorem splitFraction_eq (stops : ∀ point ∈ rest.head?, isDigit point = false)
    (noPoint : decimal.fraction = none → rest.head? ≠ some (.scalar '.')) :
    splitFraction (Text.ofCharacters decimal.fractionText ++ rest) =
      (Text.ofCharacters decimal.fractionText, rest) := by
  cases fraction_eq : decimal.fraction with
  | none =>
      simp only [DecimalText.fractionText, fraction_eq, Option.elim_none, Text.ofCharacters_nil,
        List.nil_append]
      unfold splitFraction
      split
      · exact (noPoint fraction_eq rfl).elim
      · rfl
  | some digits =>
      simp only [DecimalText.fractionText, fraction_eq, Option.elim_some, Text.ofCharacters_cons,
        List.cons_append]
      simp [splitFraction, splitDigits_eq digits stops, isEmpty_ofCharacters]

theorem splitExponent_characters (exponent : Exponent) (ends : EndsNumeral rest) :
    splitExponent (Text.ofCharacters exponent.characters ++ rest) =
      (Text.ofCharacters exponent.characters, rest) := by
  rcases exponent with ⟨isCapital, sign, digits⟩
  have digits_eq := splitDigits_eq digits ends.isDigit_eq_false
  have notEmpty := isEmpty_ofCharacters digits
  rcases sign with - | (- | -)
  · rcases List.exists_cons_of_ne_nil digits.notEmpty with ⟨first, others, characters_eq⟩
    have unsigned : first ≠ '-' ∧ first ≠ '+' :=
      digits.isUnsigned [] first (by simp [characters_eq])
    have text_eq : Text.ofCharacters digits.characters ++ rest =
        .scalar first :: (Text.ofCharacters others ++ rest) := by
      simp [characters_eq]
    rw [text_eq] at digits_eq
    cases isCapital <;>
      simp [splitExponent, Exponent.characters, Numeral.signText, text_eq, unsigned, digits_eq,
        notEmpty]
  · cases isCapital <;>
      simp [splitExponent, Exponent.characters, Numeral.signText, digits_eq, notEmpty]
  · cases isCapital <;>
      simp [splitExponent, Exponent.characters, Numeral.signText, digits_eq, notEmpty]

theorem splitExponent_eq (ends : EndsNumeral rest) :
    splitExponent (Text.ofCharacters decimal.exponentText ++ rest) =
      (Text.ofCharacters decimal.exponentText, rest) := by
  cases exponent_eq : decimal.exponent with
  | none =>
      simp only [DecimalText.exponentText, exponent_eq, Option.elim_none, Text.ofCharacters_nil,
        List.nil_append]
      unfold splitExponent
      split
      · next letter after =>
          rw [if_neg]
          rintro (rfl | rfl)
          · exact ends 'e' (by decide) rfl
          · exact ends 'E' (by decide) rfl
      · rfl
  | some exponent =>
      simp only [DecimalText.exponentText, exponent_eq, Option.elim_some]
      exact splitExponent_characters exponent ends

theorem EndsNumeral.exponentText (ends : EndsNumeral rest) :
    ∀ point ∈ (Text.ofCharacters decimal.exponentText ++ rest).head?,
      isDigit point = false ∧ point ≠ '.' := by
  intro point head
  cases text_eq : decimal.exponentText with
  | nil =>
      rw [text_eq] at head
      refine ⟨ends.isDigit_eq_false point head, ?_⟩
      rintro rfl
      exact ends '.' (by decide) head
  | cons letter others =>
      obtain rfl : .scalar letter = point := by simpa [text_eq] using head
      rcases decimal.exponentText_head? letter (by simp [text_eq]) with rfl | rfl <;> decide

theorem EndsNumeral.fractionText (ends : EndsNumeral rest) :
    ∀ point ∈ (Text.ofCharacters decimal.fractionText ++
      (Text.ofCharacters decimal.exponentText ++ rest)).head?, isDigit point = false := by
  intro point head
  cases fraction_eq : decimal.fraction with
  | none =>
      simp only [DecimalText.fractionText, fraction_eq, Option.elim_none, Text.ofCharacters_nil,
        List.nil_append] at head
      exact (ends.exponentText decimal point head).1
  | some fraction =>
      obtain rfl : .scalar '.' = point := by
        simpa [DecimalText.fractionText, fraction_eq] using head
      decide

/-- Without fraction and exponent nothing comes after the whole part. -/
theorem isEmpty_parts : ((Text.ofCharacters decimal.fractionText).isEmpty &&
    (Text.ofCharacters decimal.exponentText).isEmpty) = decide decimal.IsInteger := by
  rcases decimal with ⟨isNegative, whole, _, - | fraction, - | exponent⟩ <;>
    simp [DecimalText.fractionText, DecimalText.exponentText, DecimalText.IsInteger,
      Exponent.characters]

/-- The outcome of a numeral from the number that it is read as. -/
def numeralOutcome {α : Type} (make : α → Json) (rest : Text) :
    Except NumeralFault α → Reading Json
  | .ok number => .ok (make number, rest)
  | .error fault => .error (.numeral fault)

/-- A numeral is read in one piece. -/
theorem readNumber_eq_readParts (ends : EndsNumeral rest) :
    readNumber (Text.ofCharacters decimal.characters ++ rest) =
      if decimal.IsInteger then
        numeralOutcome .integer rest
          (Numeral.readInteger 10 (Text.ofCharacters decimal.characters))
      else
        numeralOutcome .float rest (Numeral.readFloat (Text.ofCharacters decimal.characters)) := by
  have whole_eq := splitWhole_eq decimal (ends.fractionText decimal)
  have fraction_eq := splitFraction_eq decimal
    (fun point head => (ends.exponentText decimal point head).1)
    fun _ head => (ends.exponentText decimal _ head).2 rfl
  have exponent_eq := splitExponent_eq decimal ends
  have wholeNotEmpty := isEmpty_ofCharacters decimal.whole
  have isInteger_eq := isEmpty_parts decimal
  have text_eq : Text.ofCharacters decimal.characters =
      Text.ofCharacters (Numeral.signText (if decimal.isNegative then some true else none)) ++
        (Text.ofCharacters decimal.whole.characters ++
          (Text.ofCharacters decimal.fractionText ++
            Text.ofCharacters decimal.exponentText)) := by
    simp [DecimalText.characters, DecimalText.magnitudeText]
  rw [text_eq]
  cases decimal.isNegative with
  | true =>
      simp only [readNumber, Numeral.signText, if_true, Text.ofCharacters_cons,
        Text.ofCharacters_nil, List.cons_append, List.nil_append, List.append_assoc, whole_eq,
        fraction_eq, exponent_eq, wholeNotEmpty, isInteger_eq, Bool.false_eq_true, if_false,
        decide_eq_true_eq]
      generalize Numeral.readInteger 10 _ = integer?, Numeral.readFloat _ = float?
      cases integer? <;> cases float? <;> rfl
  | false =>
      rcases List.exists_cons_of_ne_nil decimal.whole.notEmpty with ⟨first, others, characters_eq⟩
      have unsigned : first ≠ '-' ∧ first ≠ '+' :=
        decimal.whole.isUnsigned [] first (by simp [characters_eq])
      have whole_cons : Text.ofCharacters decimal.whole.characters =
          .scalar first :: Text.ofCharacters others := by
        simp [characters_eq]
      rw [whole_cons] at whole_eq wholeNotEmpty ⊢
      simp only [List.cons_append] at whole_eq
      -- With this the case of a sign is ruled out.
      have notMinus : ∀ after : Text, CodePoint.scalar first :: (Text.ofCharacters others ++
          (Text.ofCharacters decimal.fractionText ++
            (Text.ofCharacters decimal.exponentText ++ rest))) ≠ .scalar '-' :: after := by
        simp [unsigned]
      simp only [readNumber, Numeral.signText, Bool.false_eq_true, if_false,
        Text.ofCharacters_nil, List.cons_append, List.nil_append, List.append_assoc, whole_eq,
        fraction_eq, exponent_eq, wholeNotEmpty, isInteger_eq, decide_eq_true_eq]
      generalize Numeral.readInteger 10 _ = integer?, Numeral.readFloat _ = float?
      cases integer? <;> cases float? <;> rfl

/-- A numeral is read as the number that it writes. -/
theorem readNumber_eq (readableNumber : readable.number decimal) (ends : EndsNumeral rest) :
    readNumber (Text.ofCharacters decimal.characters ++ rest) =
      .ok ((Source.number decimal).json, rest) := by
  rw [readNumber_eq_readParts decimal ends, Source.json]
  split
  · next isInteger =>
      rw [DecimalText.readInteger_characters isInteger (readableNumber isInteger)]
      rfl
  · rw [decimal.readFloat_characters]
    rfl

/-- What begins a numeral begins no name of a value. -/
theorem readPlain_eq_readNumber (rest : Text) :
    readPlain (Text.ofCharacters decimal.characters ++ rest) =
      readNumber (Text.ofCharacters decimal.characters ++ rest) := by
  have noName : names.find? (fun entry =>
      entry.1.isPrefixOf (Text.ofCharacters decimal.characters ++ rest)) = none := by
    rcases decimal.exists_magnitudeText_eq with ⟨digit, others, magnitude_eq, isDigit⟩
    have differs {letter : Char} (notDigit : letter.isDigit = false) : letter ≠ digit := by
      rintro rfl
      simp [isDigit] at notDigit
    have letters : 'n' ≠ digit ∧ 't' ≠ digit ∧ 'f' ≠ digit ∧ 'N' ≠ digit ∧ 'I' ≠ digit ∧
        '-' ≠ digit :=
      ⟨differs rfl, differs rfl, differs rfl, differs rfl, differs rfl, differs rfl⟩
    rw [decimal.characters_eq, magnitude_eq]
    cases decimal.isNegative <;>
      simp [names, Text.ofString, List.isPrefixOf, letters]
  unfold readPlain
  rw [noName]

end

/-! ## Values -/

/-- Whether the beginning of a text ends a value. -/
def EndsValue (rest : Text) : Prop :=
  ∀ point ∈ rest.head?, isSpace point = true ∨ point = ',' ∨ point = ']' ∨ point = '\x7d'

theorem EndsValue.endsNumeral {rest : Text} (ends : EndsValue rest) : EndsNumeral rest := by
  intro character numeric head
  have each : ∀ character ∈ "0123456789+-.eE".toList,
      ¬ (isSpace character = true ∨ (character : CodePoint) = ',' ∨ (character : CodePoint) = ']' ∨
        (character : CodePoint) = '\x7d') :=
    Text.forall_mem_of_all (by decide)
  exact each character numeric (ends _ head)

theorem EndsValue.spacing {rest : Text} (ends : EndsValue rest) (spacing : Spacing) :
    EndsValue (Text.ofCharacters spacing.characters ++ rest) := by
  cases spacing with
  | nil => exact ends
  | cons blank spacing =>
      intro point head
      obtain rfl : .scalar blank.character = point := by
        simpa [Spacing.characters] using head
      exact .inl (isSpace_character blank)

theorem readValue_number {decimal : DecimalText} (readableNumber : readable.number decimal)
    {rest : Text} (ends : EndsValue rest) (steps : Nat) :
    readValue (steps + 1) (Text.ofCharacters decimal.characters ++ rest) =
      .ok ((Source.number decimal).json, rest) := by
  have plain_eq : readValue (steps + 1) (Text.ofCharacters decimal.characters ++ rest) =
      readPlain (Text.ofCharacters decimal.characters ++ rest) := by
    rcases decimal.exists_magnitudeText_eq with ⟨digit, others, magnitude_eq, isDigit⟩
    have notBracket : digit ≠ '"' ∧ digit ≠ '[' ∧ digit ≠ '\x7b' := by
      refine ⟨?_, ?_, ?_⟩ <;> (rintro rfl; cases isDigit)
    rw [decimal.characters_eq, magnitude_eq]
    cases decimal.isNegative with
    | false => simp [readValue, notBracket]
    | true => simp [readValue]
  rw [plain_eq, readPlain_eq_readNumber, readNumber_eq decimal readableNumber ends.endsNumeral]

theorem exists_numeral_eq (decimal : DecimalText) : ∃ first others,
    decimal.characters = first :: others ∧ isSpace first = false ∧ (first : CodePoint) ≠ ']' := by
  have each : ∀ character ∈ "0123456789+-.eE".toList,
      isSpace character = false ∧ (character : CodePoint) ≠ ']' :=
    Text.forall_mem_of_all (by decide)
  rcases decimal.exists_characters_eq with ⟨first, others, characters_eq, -⟩
  exact ⟨first, others, characters_eq, each first (decimal.isNumeric (by simp [characters_eq]))⟩

theorem skipSpace_number (decimal : DecimalText) (rest : Text) :
    skipSpace (Text.ofCharacters decimal.characters ++ rest) =
      Text.ofCharacters decimal.characters ++ rest := by
  rcases exists_numeral_eq decimal with ⟨first, others, characters_eq, notSpace, -⟩
  rw [characters_eq, Text.ofCharacters_cons, List.cons_append, skipSpace_cons notSpace]

theorem skipSpace_pieces (pieces : Pieces) (rest : Text) :
    skipSpace (Text.ofCharacters pieces.characters ++ rest) =
      Text.ofCharacters pieces.characters ++ rest :=
  rfl

/-- After an item of a list, what the list goes on with. -/
def readItemsAfter (steps : Nat) (item : Json) (rest : Text) :
    Except TextProblem (List Json × Text) :=
  match skipSpace rest with
  | .scalar ']' :: rest => return ([item], rest)
  | .scalar ',' :: rest => do
      let (items, rest) ← readItems steps (skipSpace rest)
      return (item :: items, rest)
  | rest => throw (.form .noComma rest.length)

theorem readItems_succ (steps : Nat) (source : Text) :
    readItems (steps + 1) source = (do
      let (item, rest) ← readValue steps source
      readItemsAfter steps item rest) := by
  rw [readItems]
  rfl

/-- After a member of an object, what the object goes on with. -/
def readMembersAfter (steps : Nat) (member : Text × Json) (rest : Text) :
    Except TextProblem (List (Text × Json) × Text) :=
  match skipSpace rest with
  | .scalar '\x7d' :: rest => return ([member], rest)
  | .scalar ',' :: rest => do
      let (members, rest) ← readMembers steps (skipSpace rest)
      return (member :: members, rest)
  | rest => throw (.form .noComma rest.length)

theorem readMembers_succ (steps : Nat) {pieces : Pieces} (readableName : readable.string pieces)
    (spacing : Spacing) (rest : Text) :
    readMembers (steps + 1) (Text.ofCharacters pieces.characters ++
        (Text.ofCharacters spacing.characters ++ .scalar ':' :: rest)) = (do
      let (value, rest) ← readValue steps (skipSpace rest)
      readMembersAfter steps (pieces.content, value) rest) := by
  rcases readQuoted_pieces readableName
    (Text.ofCharacters spacing.characters ++ .scalar ':' :: rest) with ⟨after, text_eq, read_eq⟩
  rw [text_eq, readMembers]
  simp only [read_eq, Outcome.ok_bind, skipSpace_spacing]
  rw [skipSpace_cons (by decide)]
  rfl

/-! ## Texts -/

theorem endsValue_items (items : List Source) (rest : Text) :
    EndsValue (Text.ofCharacters (Source.itemCharacters items) ++ .scalar ']' :: rest) := by
  intro point head
  cases items with
  | nil => exact .inr (.inr (.inl (by simpa [Source.itemCharacters, eq_comm] using head)))
  | cons item items => exact .inr (.inl (by simpa [Source.itemCharacters, eq_comm] using head))

theorem endsValue_members (members : List (Name × Source)) (rest : Text) :
    EndsValue (Text.ofCharacters (Source.membersCharacters members) ++ .scalar '\x7d' :: rest) := by
  intro point head
  cases members with
  | nil => exact .inr (.inr (.inr (by simpa [Source.membersCharacters, eq_comm] using head)))
  | cons member members =>
      exact .inr (.inl (by simpa [Source.membersCharacters, eq_comm] using head))

/-- What begins a value does not end a list. -/
theorem exists_skipSpace_eq : ∀ (source : Source) (rest : Text), ∃ point tail,
    skipSpace (Text.ofCharacters source.characters ++ rest) = point :: tail ∧ point ≠ ']'
  | .word name, rest => by
      cases name <;> exact ⟨_, _, rfl, by decide⟩
  | .number decimal, rest => by
      rcases exists_numeral_eq decimal with ⟨first, others, characters_eq, -, differs⟩
      refine ⟨first, Text.ofCharacters others ++ rest, ?_, differs⟩
      rw [Source.characters, skipSpace_number, characters_eq]
      rfl
  | .string _, _ => ⟨_, _, rfl, by decide⟩
  | .spaced before value after, rest => by
      rcases exists_skipSpace_eq value (Text.ofCharacters after.characters ++ rest) with
        ⟨point, tail, skip_eq, differs⟩
      refine ⟨point, tail, ?_, differs⟩
      simp only [Source.characters, Text.ofCharacters_append, List.append_assoc,
        skipSpace_spacing, skip_eq]
  | .emptyList _, _ => ⟨_, _, rfl, by decide⟩
  | .list _ _, _ => ⟨_, _, rfl, by decide⟩
  | .emptyObject _, _ => ⟨_, _, rfl, by decide⟩
  | .object _ _, _ => ⟨_, _, rfl, by decide⟩

/-- What begins a member does not end an object. -/
theorem exists_skipSpace_member (member : Name × Source) (rest : Text) : ∃ tail,
    skipSpace (Text.ofCharacters (Source.memberCharacters member) ++ rest) =
      .scalar '"' :: tail := by
  rcases member with ⟨name, value⟩
  simp only [Source.memberCharacters, Name.characters, Text.ofCharacters_cons,
    Text.ofCharacters_append, List.cons_append, List.append_assoc, skipSpace_spacing]
  exact ⟨_, rfl⟩

theorem mergedMembers_eq_self {members : List (Text × Json)}
    (nodup : (members.map (·.1)).Nodup) : mergedMembers members = members := by
  apply mergeEntries_eq_self
  have differ := List.pairwise_map.mp nodup
  exact differ.imp fun ne => by simpa using ne

mutual

/-- From the text of a tree its value is read, up to the white space around it. -/
theorem readValue_source : ∀ source : Source, source.Obeys readable → ∀ {steps : Nat}
    {rest : Text}, EndsValue rest → 2 * source.characters.length ≤ steps + 1 →
    ∃ after, readValue (steps + 1) (skipSpace (Text.ofCharacters source.characters ++ rest)) =
        .ok (source.json, after) ∧ skipSpace after = skipSpace rest
  | .word name, _, steps, rest, _, _ => by
      cases name <;> exact ⟨rest, rfl, rfl⟩
  | .number decimal, obeys, steps, rest, ends, _ => by
      refine ⟨rest, ?_, rfl⟩
      simp only [Source.characters]
      rw [skipSpace_number, readValue_number obeys ends]
  | .string pieces, obeys, steps, rest, _, _ => by
      rcases readQuoted_pieces obeys rest with ⟨after, text_eq, read_eq⟩
      refine ⟨rest, ?_, rfl⟩
      simp only [Source.characters, text_eq]
      rw [skipSpace_cons (by decide), readValue, read_eq]
      rfl
  | .spaced before value after, obeys, steps, rest, ends, enough => by
      have length_eq : (Source.spaced before value after).characters.length =
          before.characters.length + value.characters.length + after.characters.length := by
        simp only [Source.characters, List.length_append]
        omega
      have fits : 2 * value.characters.length ≤ steps + 1 := by omega
      rcases readValue_source value obeys.2.1 (ends.spacing after) fits with
        ⟨next, read_eq, next_eq⟩
      refine ⟨next, ?_, by rw [next_eq, skipSpace_spacing]⟩
      simp only [Source.characters, Text.ofCharacters_append, List.append_assoc,
        skipSpace_spacing, read_eq, Source.json]
  | .emptyList spacing, _, steps, rest, _, _ => by
      refine ⟨rest, ?_, rfl⟩
      simp only [Source.characters, Text.ofCharacters_cons, Text.ofCharacters_append,
        Text.ofCharacters_nil, List.cons_append, List.append_assoc, List.nil_append]
      rw [skipSpace_cons (by decide), readValue, skipSpace_spacing, skipSpace_cons (by decide)]
      rfl
  | .list first others, obeys, steps, rest, _, enough => by
      have length_eq : (Source.list first others).characters.length =
          first.characters.length + (Source.itemCharacters others).length + 2 := by
        simp [Source.characters]
        omega
      obtain ⟨steps, rfl⟩ : ∃ less, steps = less + 2 := ⟨steps - 2, by omega⟩
      let following := Text.ofCharacters (Source.itemCharacters others) ++ .scalar ']' :: rest
      rcases exists_skipSpace_eq first following with ⟨point, tail, skip_eq, notEnd⟩
      have fits : 2 * first.characters.length ≤ steps + 1 := by omega
      obtain ⟨after, read_eq, after_eq⟩ :=
        readValue_source first obeys.1 (endsValue_items others rest) fits
      have items_eq : readItems (steps + 2) (skipSpace (Text.ofCharacters first.characters ++
          following)) = .ok (first.json :: Source.itemJsons others, rest) := by
        rw [readItems_succ, read_eq, Outcome.ok_bind]
        exact readItemsAfter_sources others obeys.2 after_eq (by omega)
      have notClosing : ∀ after, point :: tail ≠ .scalar ']' :: after := by
        simp [notEnd]
      refine ⟨rest, ?_, rfl⟩
      rw [skip_eq] at items_eq
      simp only [Source.characters, Text.ofCharacters_cons, Text.ofCharacters_append,
        Text.ofCharacters_nil, List.cons_append, List.append_assoc, List.nil_append]
      rw [skipSpace_cons (by decide), readValue, skip_eq]
      simp only [items_eq, Source.json]
      rfl
  | .emptyObject spacing, _, steps, rest, _, _ => by
      refine ⟨rest, ?_, rfl⟩
      simp only [Source.characters, Text.ofCharacters_cons, Text.ofCharacters_append,
        Text.ofCharacters_nil, List.cons_append, List.append_assoc, List.nil_append]
      rw [skipSpace_cons (by decide), readValue, skipSpace_spacing, skipSpace_cons (by decide)]
      rfl
  | .object first others, obeys, steps, rest, _, enough => by
      have length_eq : (Source.object first others).characters.length =
          (Source.memberCharacters first).length + (Source.membersCharacters others).length +
            2 := by
        simp [Source.characters]
        omega
      obtain ⟨steps, rfl⟩ : ∃ less, steps = less + 1 := ⟨steps - 1, by omega⟩
      let following := Text.ofCharacters (Source.membersCharacters others) ++ .scalar '\x7d' :: rest
      rcases exists_skipSpace_member first following with ⟨tail, skip_eq⟩
      have fits : 2 * (Source.memberCharacters first).length ≤ steps + 2 := by omega
      obtain ⟨after, read_eq, after_eq⟩ :=
        readMembers_source first obeys.2.1 (endsValue_members others rest) fits
      rw [readMembersAfter_sources others obeys.2.2 after_eq (by omega), skip_eq] at read_eq
      refine ⟨rest, ?_, rfl⟩
      simp only [Source.characters, Text.ofCharacters_cons, Text.ofCharacters_append,
        Text.ofCharacters_nil, List.cons_append, List.append_assoc, List.nil_append]
      rw [skipSpace_cons (by decide), readValue, skip_eq]
      show (readMembers (steps + 1) (.scalar '"' :: tail)).map _ = _
      simp only [read_eq, Outcome.exceptMap_ok, mergedMembers_eq_self obeys.1, Source.json]
termination_by structural source => source

theorem readItemsAfter_sources : ∀ items : List Source, Source.ItemsObey readable items →
    ∀ {steps : Nat} {item : Json} {after rest : Text},
      skipSpace after =
        skipSpace (Text.ofCharacters (Source.itemCharacters items) ++ .scalar ']' :: rest) →
      2 * (Source.itemCharacters items).length ≤ steps →
      readItemsAfter steps item after = .ok (item :: Source.itemJsons items, rest)
  | [], _, steps, item, after, rest, after_eq, _ => by
      rw [readItemsAfter, after_eq]
      rfl
  | next :: items, obeys, steps, item, after, rest, after_eq, enough => by
      have length_eq : (Source.itemCharacters (next :: items)).length =
          next.characters.length + (Source.itemCharacters items).length + 1 := by
        simp [Source.itemCharacters]
      obtain ⟨steps, rfl⟩ : ∃ less, steps = less + 2 := ⟨steps - 2, by omega⟩
      have fits : 2 * next.characters.length ≤ steps + 1 := by omega
      obtain ⟨last, read_eq, last_eq⟩ :=
        readValue_source next obeys.1 (endsValue_items items rest) fits
      have items_eq : readItems (steps + 2) (skipSpace (Text.ofCharacters next.characters ++
          (Text.ofCharacters (Source.itemCharacters items) ++ .scalar ']' :: rest))) =
            .ok (next.json :: Source.itemJsons items, rest) := by
        rw [readItems_succ, read_eq, Outcome.ok_bind]
        exact readItemsAfter_sources items obeys.2 last_eq (by omega)
      simp only [Source.itemCharacters, Text.ofCharacters_cons, Text.ofCharacters_append,
        List.cons_append, List.append_assoc] at after_eq
      rw [skipSpace_cons (by decide)] at after_eq
      simp only [readItemsAfter, after_eq, items_eq]
      rfl
termination_by structural items => items

theorem readMembersAfter_sources : ∀ members : List (Name × Source),
    Source.MembersObey readable members →
    ∀ {steps : Nat} {member : Text × Json} {after rest : Text},
      skipSpace after =
        skipSpace (Text.ofCharacters (Source.membersCharacters members) ++ .scalar '\x7d' :: rest) →
      2 * (Source.membersCharacters members).length ≤ steps →
      readMembersAfter steps member after = .ok (member :: Source.memberJsons members, rest)
  | [], _, steps, item, after, rest, after_eq, _ => by
      rw [readMembersAfter, after_eq]
      rfl
  | next :: members, obeys, steps, member, after, rest, after_eq, enough => by
      have length_eq : (Source.membersCharacters (next :: members)).length =
          (Source.memberCharacters next).length + (Source.membersCharacters members).length +
            1 := by
        simp [Source.membersCharacters]
      obtain ⟨steps, rfl⟩ : ∃ less, steps = less + 1 := ⟨steps - 1, by omega⟩
      have fits : 2 * (Source.memberCharacters next).length ≤ steps + 2 := by omega
      obtain ⟨last, read_eq, last_eq⟩ :=
        readMembers_source next obeys.1 (endsValue_members members rest) fits
      rw [readMembersAfter_sources members obeys.2 last_eq (by omega)] at read_eq
      simp only [Source.membersCharacters, Text.ofCharacters_cons, Text.ofCharacters_append,
        List.cons_append, List.append_assoc] at after_eq
      rw [skipSpace_cons (by decide)] at after_eq
      simp only [readMembersAfter, after_eq]
      rw [read_eq]
      rfl
termination_by structural members => members

theorem readMembers_source : ∀ member : Name × Source, Source.MemberObeys readable member →
    ∀ {steps : Nat} {rest : Text}, EndsValue rest →
      2 * (Source.memberCharacters member).length ≤ steps + 2 →
      ∃ after, readMembers (steps + 1)
          (skipSpace (Text.ofCharacters (Source.memberCharacters member) ++ rest)) =
            readMembersAfter steps (Source.memberJson member) after ∧
        skipSpace after = skipSpace rest
  | (name, value), obeys, steps, rest, ends, enough => by
      have length_eq : (Source.memberCharacters (name, value)).length =
          name.before.characters.length + name.pieces.characters.length +
            name.after.characters.length + value.characters.length + 1 := by
        simp [Source.memberCharacters, Name.characters]
        omega
      have quoted : 2 ≤ name.pieces.characters.length := by
        simp [Pieces.characters]
      obtain ⟨steps, rfl⟩ : ∃ less, steps = less + 1 := ⟨steps - 1, by omega⟩
      have fits : 2 * value.characters.length ≤ steps + 1 := by omega
      obtain ⟨after, read_eq, after_eq⟩ := readValue_source value obeys.2 ends fits
      refine ⟨after, ?_, after_eq⟩
      simp only [Source.memberCharacters, Name.characters, Text.ofCharacters_cons,
        Text.ofCharacters_append, List.cons_append, List.append_assoc, skipSpace_spacing]
      rw [skipSpace_pieces, readMembers_succ _ obeys.1.2.1, read_eq]
      rfl
termination_by structural member => member

end

/-- The text of a readable tree is read as its value. -/
theorem read_source {source : Source} (isReadable : source.IsReadable) :
    read source.text = .ok source.json := by
  have fits : 2 * source.characters.length ≤ 2 * source.text.length + 1 + 1 := by
    simp only [Source.text, Text.length_ofCharacters]
    omega
  have atEnd : EndsValue [] := nofun
  rcases readValue_source source isReadable atEnd fits with ⟨after, read_eq, after_eq⟩
  rw [List.append_nil, ← Source.text] at read_eq
  have empty : skipSpace after = [] := after_eq
  rw [read, readWhole, read_eq, Outcome.ok_bind]
  simp only [empty]
  rfl

end UsageContracts.Json
