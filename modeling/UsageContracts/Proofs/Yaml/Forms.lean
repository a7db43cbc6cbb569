import Mathlib.Data.List.TakeWhile
import UsageContracts.Proofs.Number.Numeral
import UsageContracts.Proofs.Outcome
import UsageContracts.Yaml.Scalar.Content

/-!
# The forms of JSON's names and numerals

The names of JSON and most of its numerals have the same meaning as plain
scalars.  A numeral with an exponent needs a fraction and a sign before the
digits of the exponent.
-/

namespace UsageContracts.Yaml

/-- The value of a plain scalar. -/
def plainValue (content : List Char) : Except Fault Scalar :=
  scalarValue (Tag.ofPlain content) (Text.ofCharacters content)

theorem plainValue_null : plainValue "null".toList = .ok .null :=
  rfl

theorem plainValue_true : plainValue "true".toList = .ok (.bool true) :=
  rfl

theorem plainValue_false : plainValue "false".toList = .ok (.bool false) :=
  rfl

/-! ## Numerals -/

variable {decimal : DecimalText}

theorem isWord_cons {word : String} {letter first : Char} {others rest : List Char}
    (word_eq : word.toList = letter :: others)
    (differ : first ≠ letter ∧ first ≠ letter.toUpper) :
    Form.isWord word (first :: rest) = false := by
  simp [Form.isWord, word_eq, differ]

/-- What begins with a digit or a hyphen names no truth value. -/
theorem isTruthValue_characters (decimal : DecimalText) :
    Form.isTruthValue decimal.characters = false := by
  rcases decimal.exists_characters_eq with ⟨first, rest, characters_eq, begins⟩
  have differs {letter : Char} (other : (letter.isDigit || letter == '-') = false) :
      first ≠ letter := by
    rintro rfl
    rcases begins with isDigit | rfl
    · simp [isDigit] at other
    · cases other
  have notWord {word : String} {letter : Char} {others : List Char}
      (word_eq : word.toList = letter :: others)
      (small : (letter.isDigit || letter == '-') = false)
      (capital : (letter.toUpper.isDigit || letter.toUpper == '-') = false) :
      ¬ Form.isWord word (first :: rest) = true := by
    rw [isWord_cons word_eq ⟨differs small, differs capital⟩]
    exact Bool.false_ne_true
  rw [characters_eq, Form.isTruthValue, List.any_eq_false]
  simp only [Form.truthNames, List.forall_mem_cons]
  exact ⟨notWord rfl rfl rfl, notWord rfl rfl rfl, notWord rfl rfl rfl, notWord rfl rfl rfl,
    notWord rfl rfl rfl, notWord rfl rfl rfl, List.forall_mem_nil _⟩

theorem dropSign_characters (decimal : DecimalText) :
    Form.dropSign decimal.characters = decimal.magnitudeText := by
  rcases decimal with ⟨- | -, ⟨- | ⟨digit, others⟩, notEmpty, areDigits⟩, _, fraction, exponent⟩
  · exact (notEmpty rfl).elim
  · have isDigit := areDigits digit List.mem_cons_self
    have notSign : digit ≠ '+' ∧ digit ≠ '-' := by
      constructor <;> (rintro rfl; cases isDigit)
    show Form.dropSign (digit :: _) = _
    rw [Form.dropSign]
    · rfl
    · simp [notSign.1]
    · simp [notSign.2]
  · rfl
  · rfl

/-- A numeral of JSON is read as a number if it has the form of an integer or of a
number with a point. -/
theorem ofPlain_characters (decimal : DecimalText) : Tag.ofPlain decimal.characters =
    if Form.isFloat decimal.characters then .float
    else if Form.isInteger decimal.characters then .integer
    else Tag.ofPlain decimal.characters := by
  have notLast : decimal.characters.getLast? ≠ some '\n' := fun last =>
    decimal.not_mem_characters (by decide) (List.mem_of_getLast? last)
  unfold Tag.ofPlain
  simp only [notLast, and_false, if_false, isTruthValue_characters, Bool.false_eq_true]
  split
  · rfl
  split <;> rfl

/-! ## Integers -/

theorem isDigits_of_areDigits {digits : Digits} (isPositive : Bool)
    (positive : isPositive = true → digits.characters.head? ≠ some '0') :
    Form.isDigits isPositive digits.characters = true := by
  rcases digits with ⟨- | ⟨digit, others⟩, notEmpty, areDigits⟩
  · exact (notEmpty rfl).elim
  · have isDigit := areDigits digit List.mem_cons_self
    have others_eq : others.all Form.isDigitOrUnderscore = true := by
      rw [List.all_eq_true]
      exact fun character member => by
        simp [Form.isDigitOrUnderscore, areDigits character (List.mem_cons_of_mem _ member)]
    have notZero : (isPositive && digit == '0') = false := by
      cases isPositive with
      | false => rfl
      | true => simpa using positive rfl
    simp [Form.isDigits, isDigit, others_eq, notZero]

theorem isInteger_eq_true (isInteger : decimal.IsInteger) :
    Form.isInteger decimal.characters = true := by
  rw [Form.isInteger, dropSign_characters, DecimalText.magnitudeText_eq isInteger]
  by_cases zero : decimal.whole.characters.head? = some '0'
  · rw [decimal.noZeroAhead zero]
    rfl
  · have positive := isDigits_of_areDigits true fun _ => zero
    split
    · next digits_eq => exact (zero (by rw [digits_eq]; rfl)).elim
    · next digits_eq => exact (zero (by rw [digits_eq]; rfl)).elim
    · next digits_eq => exact (zero (by rw [digits_eq]; rfl)).elim
    · rw [positive, Bool.true_or]

theorem bne_point_of_mem (decimal : DecimalText) :
    ∀ character ∈ decimal.whole.characters, (character != '.') = true := by
  intro character member
  rw [bne_iff_ne]
  rintro rfl
  cases decimal.whole.areDigits '.' member

theorem isFloat_eq_false (isInteger : decimal.IsInteger) :
    Form.isFloat decimal.characters = false := by
  have noPoint : decimal.magnitudeText.dropWhile (· != '.') = [] := by
    rw [DecimalText.magnitudeText_eq isInteger]
    exact List.dropWhile_eq_nil_iff.mpr (bne_point_of_mem decimal)
  simp only [Form.isFloat, dropSign_characters, noPoint]

/-- Characters that numerals are not written with do not stand in them. -/
theorem not_mem_ofCharacters (decimal : DecimalText) {character : Char}
    (notNumeric : ¬ IsNumeric character) :
    .scalar character ∉ Text.ofCharacters decimal.characters := by
  intro member
  rcases List.mem_map.mp member with ⟨other, inText, other_eq⟩
  cases other_eq
  exact decimal.not_mem_characters notNumeric inText

theorem dropUnderscores_characters (decimal : DecimalText) :
    dropUnderscores (Text.ofCharacters decimal.characters) =
      Text.ofCharacters decimal.characters := by
  rw [dropUnderscores, List.filter_eq_self]
  intro point member
  rw [decide_eq_true_eq]
  rintro rfl
  exact not_mem_ofCharacters decimal (by decide) member

theorem contains_colon (decimal : DecimalText) :
    List.contains (Text.ofCharacters decimal.characters) (.scalar ':') = false := by
  have notMember := not_mem_ofCharacters decimal (by decide : ¬ IsNumeric ':')
  simpa using notMember

theorem signOf_characters (decimal : DecimalText) :
    signOf (Text.ofCharacters decimal.characters) =
      .ok (decimal.isNegative, Text.ofCharacters decimal.unsigned.characters) := by
  rcases decimal with ⟨- | -, ⟨- | ⟨digit, others⟩, notEmpty, areDigits⟩, _, fraction, exponent⟩
  · exact (notEmpty rfl).elim
  · have isDigit := areDigits digit List.mem_cons_self
    have notSign : (digit : CodePoint) ≠ '-' ∧ (digit : CodePoint) ≠ '+' := by
      constructor <;> (intro same; cases same; cases isDigit)
    show signOf (.scalar digit :: _) = .ok (false, .scalar digit :: _)
    rw [signOf, if_neg notSign.1, if_neg notSign.2]
    rfl
  · exact (notEmpty rfl).elim
  · rfl

theorem unsignedInteger_characters (isInteger : decimal.IsInteger)
    (short : decimal.whole.characters.length ≤ longestInteger) :
    unsignedInteger (Text.ofCharacters decimal.unsigned.characters) =
      .ok decimal.whole.value := by
  have unsignedIsInteger : decimal.unsigned.IsInteger := isInteger
  have read_eq : integerIn 10 (Text.ofCharacters decimal.unsigned.characters) =
      .ok decimal.whole.value := by
    rw [integerIn, DecimalText.readInteger_characters unsignedIsInteger short]
    rfl
  have characters_eq : decimal.unsigned.characters = decimal.whole.characters :=
    DecimalText.magnitudeText_eq isInteger
  have head_eq : (Text.ofCharacters decimal.unsigned.characters).head? =
      decimal.whole.characters.head?.map .scalar := by
    rw [characters_eq, Text.ofCharacters, List.head?_map]
  by_cases zero : decimal.whole.characters.head? = some '0'
  · rw [characters_eq, Digits.value, decimal.noZeroAhead zero]
    rfl
  · unfold unsignedInteger
    split
    · next text_eq =>
        rw [text_eq] at head_eq
        exact (decimal.whole.notEmpty (by simpa using head_eq.symm)).elim
    · next text_eq =>
        rw [text_eq] at head_eq
        exact (zero (by simpa using head_eq.symm)).elim
    · rw [contains_colon]
      exact read_eq

theorem integerOf_characters (isInteger : decimal.IsInteger)
    (short : decimal.whole.characters.length ≤ longestInteger) :
    integerOf (Text.ofCharacters decimal.characters) = .ok decimal.integer := by
  rw [integerOf, dropUnderscores_characters, signOf_characters, Outcome.ok_bind]
  simp only [unsignedInteger_characters isInteger short, Outcome.ok_bind, Outcome.pure_eq_ok,
    DecimalText.integer]

/-- An integer numeral of JSON has the same value as a plain scalar. -/
theorem plainValue_integer (isInteger : decimal.IsInteger)
    (short : decimal.whole.characters.length ≤ longestInteger) :
    plainValue decimal.characters = .ok (.integer decimal.integer) := by
  rw [plainValue, ofPlain_characters, isFloat_eq_false isInteger, isInteger_eq_true isInteger]
  simp [scalarValue, integerOf_characters isInteger short]

/-! ## Numbers with a point -/

/-- Whether a numeral has a fraction, and a sign before the digits of its exponent if
it has an exponent. -/
def IsPointed (decimal : DecimalText) : Prop :=
  decimal.fraction.isSome ∧ ∀ exponent, decimal.exponent = some exponent → exponent.sign.isSome

theorem isExponentOrEmpty_exponentText (isPointed : IsPointed decimal) :
    Form.isExponentOrEmpty decimal.exponentText = true := by
  cases exponent_eq : decimal.exponent with
  | none => simp [DecimalText.exponentText, exponent_eq, Form.isExponentOrEmpty]
  | some exponent =>
      have isSigned := isPointed.2 exponent exponent_eq
      rcases exponent with ⟨isCapital, - | isNegative, digits⟩
      · cases isSigned
      · have areDigits := digits.areDigits
        cases isCapital <;> cases isNegative <;>
          simpa [DecimalText.exponentText, exponent_eq, Exponent.characters, Numeral.signText,
            Form.isExponentOrEmpty, Form.isRun, digits.notEmpty] using areDigits

theorem isFloat_eq_true (isPointed : IsPointed decimal) :
    Form.isFloat decimal.characters = true := by
  rcases Option.isSome_iff_exists.mp isPointed.1 with ⟨fraction, fraction_eq⟩
  have magnitude_eq : decimal.magnitudeText =
      decimal.whole.characters ++ '.' :: (fraction.characters ++ decimal.exponentText) := by
    simp [DecimalText.magnitudeText, DecimalText.fractionText, fraction_eq]
  have whole_eq : decimal.magnitudeText.takeWhile (· != '.') = decimal.whole.characters := by
    rw [magnitude_eq]
    exact Text.takeWhile_append_of_stop (bne_point_of_mem decimal) (by simp)
  have rest_eq : decimal.magnitudeText.dropWhile (· != '.') =
      '.' :: (fraction.characters ++ decimal.exponentText) := by
    rw [magnitude_eq]
    exact Text.dropWhile_append_of_stop (bne_point_of_mem decimal) (by simp)
  have after_eq : (fraction.characters ++ decimal.exponentText).dropWhile
      Form.isDigitOrUnderscore = decimal.exponentText := by
    apply Text.dropWhile_append_of_stop
    · exact fun character member => by
        simp [Form.isDigitOrUnderscore, fraction.areDigits character member]
    · intro character head
      rcases decimal.exponentText_head? character head with rfl | rfl <;> decide
  have whole_isDigits : Form.isDigits false decimal.whole.characters = true :=
    isDigits_of_areDigits false (absurd · Bool.false_ne_true)
  simp only [Form.isFloat, dropSign_characters, whole_eq, rest_eq, after_eq, whole_isDigits,
    isExponentOrEmpty_exponentText isPointed, Bool.and_self, Bool.true_or]

theorem unsignedFloat_characters (decimal : DecimalText) :
    unsignedFloat (Text.ofCharacters decimal.characters) = .ok decimal.float := by
  have notInfinite : Text.ofCharacters decimal.characters ≠ ".inf" := by
    intro same
    apply not_mem_ofCharacters decimal (by decide : ¬ IsNumeric 'i')
    rw [same]
    decide
  have notNan : Text.ofCharacters decimal.characters ≠ ".nan" := by
    intro same
    apply not_mem_ofCharacters decimal (by decide : ¬ IsNumeric 'n')
    rw [same]
    decide
  rw [unsignedFloat, if_neg notInfinite, if_neg notNan, contains_colon]
  simp only [Bool.false_eq_true, if_false, floatIn, DecimalText.readFloat_characters]
  rfl

/-- The letter case of the exponent does not matter, and the sign is applied last. -/
theorem floatOf_characters (decimal : DecimalText) :
    floatOf (Text.ofCharacters decimal.characters) = .ok decimal.float := by
  have lower_eq : Text.lower (Text.ofCharacters decimal.characters) =
      Text.ofCharacters decimal.lowered.characters := by
    rw [decimal.characters_lowered]
    exact Text.lower_ofCharacters fun _ => decimal.isNumeric
  rw [floatOf, dropUnderscores_characters, lower_eq, signOf_characters, Outcome.ok_bind]
  simp only [unsignedFloat_characters, Outcome.ok_bind, Outcome.pure_eq_ok]
  rw [← decimal.lowered.float_eq, decimal.float_lowered]

/-- A numeral of JSON with a fraction has the same value as a plain scalar, if its
exponent has a sign. -/
theorem plainValue_float (isPointed : IsPointed decimal) :
    plainValue decimal.characters = .ok (.float decimal.float) := by
  rw [plainValue, ofPlain_characters, isFloat_eq_true isPointed]
  simp [scalarValue, floatOf_characters]

end UsageContracts.Yaml
