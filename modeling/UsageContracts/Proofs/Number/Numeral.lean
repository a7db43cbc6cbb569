import Mathlib.Data.List.TakeWhile
import UsageContracts.Number.Numeral
import UsageContracts.Proofs.Text.Characters
import UsageContracts.Text.LetterCase

/-!
# Reading decimal numerals

Decimal numerals by their parts, as they are written with the digits, the signs,
the point and the letter of ASCII, and the numbers that are read from them.
-/

namespace UsageContracts

/-! ## Characters -/

/-- Whether a character is one of those of decimal numerals. -/
def IsNumeric (character : Char) : Prop :=
  character ∈ "0123456789+-.eE".toList

instance (character : Char) : Decidable (IsNumeric character) :=
  inferInstanceAs (Decidable (_ ∈ _))

theorem isNumeric_of_isDigit {character : Char} (isDigit : character.isDigit = true) :
    IsNumeric character := by
  have each : ∀ number < 58, 48 ≤ number → IsNumeric (Char.ofNat number) := by
    decide
  have bounds : 48 ≤ character.toNat ∧ character.toNat ≤ 57 := by
    simpa [Char.isDigit, UInt32.le_iff_toNat_le] using isDigit
  have isNumeric := each character.toNat (by omega) bounds.1
  rwa [Char.ofNat_toNat] at isNumeric

theorem toLower_of_isDigit {character : Char} (isDigit : character.isDigit = true) :
    character.toLower = character := by
  have each : ∀ character ∈ "0123456789+-.eE".toList, character.isDigit = true →
      character.toLower = character :=
    Text.forall_mem_of_all (by decide)
  exact each character (isNumeric_of_isDigit isDigit) isDigit

section

variable {characters : List Char}

/-- Numerals are in lower case but for the letter of an exponent. -/
theorem Text.lower_ofCharacters (numeric : ∀ character ∈ characters, IsNumeric character) :
    Text.lower (Text.ofCharacters characters) =
      Text.ofCharacters (characters.map Char.toLower) := by
  have alone : ∀ character ∈ "0123456789+-.eE".toList,
      Text.lowerAfter none [.scalar character] = [.scalar character.toLower] :=
    Text.forall_mem_of_all (by decide)
  have notSigma : ∀ character ∈ "0123456789+-.eE".toList, character ≠ '\u03A3' :=
    Text.forall_mem_of_all (by decide)
  unfold Text.lower
  generalize none = previous
  induction characters generalizing previous with
  | nil => rfl
  | cons character characters ih =>
      have isNumeric := numeric character List.mem_cons_self
      have first := alone character isNumeric
      simp only [Text.lowerAfter, List.append_nil] at first
      rw [Text.ofCharacters, List.map_cons, Text.lowerAfter, ← Text.ofCharacters,
        ih fun other member => numeric other (List.mem_cons_of_mem _ member)]
      simp only [CodePoint.scalar.injEq, notSigma character isNumeric, if_false] at first ⊢
      rw [first]
      rfl

namespace Numeral

theorem asciiSpelling_eq (numeric : ∀ character ∈ characters, IsNumeric character) :
    asciiSpelling (Text.ofCharacters characters) = characters := by
  have notPadding : ∀ character ∈ "0123456789+-.eE".toList,
      isPadding (.scalar character) = false :=
    Text.forall_mem_of_all (by decide)
  have kept : ∀ points : Text, (∀ point ∈ points, point ∈ Text.ofCharacters characters) →
      points.dropWhile isPadding = points := by
    intro points within
    cases points with
    | nil => rfl
    | cons point points =>
        rcases List.mem_map.mp (within point List.mem_cons_self) with ⟨character, member, rfl⟩
        exact List.dropWhile_cons_of_neg (by simp [notPadding _ (numeric character member)])
  have digit_spelled : ∀ character ∈ "0123456789+-.eE".toList,
      ∀ digit ∈ (CodePoint.scalar character).decimalDigit?,
        Char.ofNat ('0'.toNat + digit) = character :=
    Text.forall_mem_of_all (by decide)
  have isAscii : ∀ character ∈ "0123456789+-.eE".toList,
      (CodePoint.scalar character).isAscii = true :=
    Text.forall_mem_of_all (by decide)
  unfold asciiSpelling
  rw [kept _ fun point member => member, kept _ fun point member => by simpa using member,
    List.reverse_reverse]
  rw [Text.ofCharacters, List.map_map]
  refine (List.map_congr_left fun character member => ?_).trans (List.map_id characters)
  have isNumeric := numeric character member
  simp only [Function.comp_apply]
  split
  · next digit digit_eq => exact digit_spelled _ isNumeric digit digit_eq
  · rw [if_pos (isAscii _ isNumeric)]
    rfl

/-! ## Integers -/

theorem dropBase_ten (characters : List Char) : dropBase 10 characters = characters := by
  unfold dropBase
  split
  · simp [baseLetter?]
  · rfl

theorem isWellSeparated_of_isDigit (digits : ∀ character ∈ characters, character.isDigit = true) :
    isWellSeparated characters = true := by
  induction characters with
  | nil => rfl
  | cons character rest ih =>
      have notUnderscore : character ≠ '_' := by
        rintro rfl
        exact absurd (digits '_' List.mem_cons_self) (by decide)
      rw [isWellSeparated]
      · exact ih fun other member => digits other (List.mem_cons_of_mem _ member)
      · simp [notUnderscore]
      · simp [notUnderscore]

theorem digitValue?_isSome {character : Char} (isDigit : character.isDigit = true) :
    (digitValue? 10 character).isSome = true := by
  have bounds : 48 ≤ character.toNat ∧ character.toNat ≤ 57 := by
    simpa [Char.isDigit, UInt32.le_iff_toNat_le] using isDigit
  simp [digitValue?, isDigit]
  omega

/-! ## Signs -/

/-- A sign, as "is it negative", or no sign. -/
def signText : Option Bool → List Char
  | none => []
  | some false => ['+']
  | some true => ['-']

theorem isNumeric_of_mem_signText {sign : Option Bool} {character : Char}
    (member : character ∈ signText sign) : IsNumeric character := by
  rcases sign with - | (- | -)
  · cases member
  · obtain rfl := List.mem_singleton.mp member
    decide
  · obtain rfl := List.mem_singleton.mp member
    decide

theorem splitSign_signText (sign : Option Bool)
    (unsigned : ∀ character ∈ characters.head?, character ≠ '-' ∧ character ≠ '+') :
    splitSign (signText sign ++ characters) = (sign == some true, characters) := by
  rcases sign with - | (- | -)
  · cases characters with
    | nil => rfl
    | cons character rest =>
        have ⟨notMinus, notPlus⟩ := unsigned character rfl
        simp only [signText, List.nil_append]
        rw [splitSign]
        · rfl
        · simp [notMinus]
        · simp [notPlus]
  · rfl
  · rfl

end Numeral

end

/-! ## Decimal numerals -/

/-- One or more decimal digits. -/
structure Digits where
  characters : List Char
  notEmpty : characters ≠ []
  areDigits : ∀ character ∈ characters, character.isDigit = true

/-- The exponent of a decimal numeral. -/
structure Exponent where
  isCapital : Bool := false
  /-- The sign, as "is it negative", if there is one. -/
  sign : Option Bool := none
  digits : Digits

/-- A decimal numeral without superfluous zeros ahead. -/
structure DecimalText where
  isNegative : Bool := false
  whole : Digits
  noZeroAhead : whole.characters.head? = some '0' → whole.characters = ['0']
  fraction : Option Digits := none
  exponent : Option Exponent := none

namespace Digits

variable (digits : Digits)

/-- The number that digits write. -/
def value : Nat :=
  Numeral.digitsValue 10 digits.characters

theorem isNumeric {character : Char} (member : character ∈ digits.characters) :
    IsNumeric character :=
  isNumeric_of_isDigit (digits.areDigits character member)

theorem isUnsigned (rest : List Char) :
    ∀ character ∈ (digits.characters ++ rest).head?, character ≠ '-' ∧ character ≠ '+' := by
  intro character head
  rcases digits with ⟨- | ⟨first, others⟩, notEmpty, areDigits⟩
  · exact (notEmpty rfl).elim
  · obtain rfl : first = character := by simpa using head
    have isDigit := areDigits first List.mem_cons_self
    constructor <;> (rintro rfl; revert isDigit; decide)

end Digits

namespace Exponent

/-- The characters of an exponent. -/
def characters (exponent : Exponent) : List Char :=
  (if exponent.isCapital then 'E' else 'e') ::
    (Numeral.signText exponent.sign ++ exponent.digits.characters)

/-- The power of ten that an exponent names. -/
def power (exponent : Exponent) : Int :=
  if exponent.sign = some true then -(exponent.digits.value : Int) else exponent.digits.value

end Exponent

namespace DecimalText

/-- The digits of the fraction, if there are any. -/
def fractionDigits (decimal : DecimalText) : List Char :=
  decimal.fraction.elim [] Digits.characters

/-- The characters of the fraction. -/
def fractionText (decimal : DecimalText) : List Char :=
  decimal.fraction.elim [] fun digits => '.' :: digits.characters

/-- The characters of the exponent. -/
def exponentText (decimal : DecimalText) : List Char :=
  decimal.exponent.elim [] Exponent.characters

/-- The characters of a numeral after its sign. -/
def magnitudeText (decimal : DecimalText) : List Char :=
  decimal.whole.characters ++ (decimal.fractionText ++ decimal.exponentText)

/-- The characters of a numeral. -/
def characters (decimal : DecimalText) : List Char :=
  Numeral.signText (if decimal.isNegative then some true else none) ++ decimal.magnitudeText

/-- Whether a numeral has neither a fraction nor an exponent. -/
def IsInteger (decimal : DecimalText) : Prop :=
  decimal.fraction = none ∧ decimal.exponent = none

instance (decimal : DecimalText) : Decidable decimal.IsInteger :=
  inferInstanceAs (Decidable (_ ∧ _))

/-- The integer that a numeral writes without fraction and exponent. -/
def integer (decimal : DecimalText) : Int :=
  if decimal.isNegative then -(decimal.whole.value : Int) else decimal.whole.value

/-- The floating point number that a numeral writes. -/
def float (decimal : DecimalText) : Binary64 :=
  .ofDecimal decimal.isNegative
    (Numeral.digitsValue 10 (decimal.whole.characters ++ decimal.fractionDigits))
    (decimal.exponent.elim 0 Exponent.power - decimal.fractionDigits.length)

variable (decimal : DecimalText)

theorem isNumeric {character : Char} (member : character ∈ decimal.characters) :
    IsNumeric character := by
  rcases decimal with ⟨isNegative, whole, _, fraction, exponent⟩
  simp only [characters, magnitudeText, List.mem_append] at member
  rcases member with inSign | inWhole | inFraction | inExponent
  · exact Numeral.isNumeric_of_mem_signText inSign
  · exact whole.isNumeric inWhole
  · cases fraction with
    | none => cases inFraction
    | some digits =>
        rcases List.mem_cons.mp inFraction with rfl | inDigits
        · decide
        · exact digits.isNumeric inDigits
  · cases exponent with
    | none => cases inExponent
    | some exponent =>
        rcases List.mem_cons.mp inExponent with rfl | inRest
        · cases exponent.isCapital <;> decide
        · rcases List.mem_append.mp inRest with inSign | inDigits
          · exact Numeral.isNumeric_of_mem_signText inSign
          · exact exponent.digits.isNumeric inDigits

/-- After its sign a numeral begins with a digit. -/
theorem exists_magnitudeText_eq : ∃ digit rest,
    decimal.magnitudeText = digit :: rest ∧ digit.isDigit = true := by
  rcases decimal with ⟨-, ⟨- | ⟨digit, others⟩, notEmpty, areDigits⟩, _, -, -⟩
  · exact (notEmpty rfl).elim
  · exact ⟨digit, _, rfl, areDigits digit List.mem_cons_self⟩

theorem characters_eq : decimal.characters =
    if decimal.isNegative then '-' :: decimal.magnitudeText else decimal.magnitudeText := by
  rw [characters]
  cases decimal.isNegative <;> rfl

/-- A numeral begins with a digit or a hyphen. -/
theorem exists_characters_eq : ∃ first others,
    decimal.characters = first :: others ∧ (first.isDigit = true ∨ first = '-') := by
  rcases decimal.exists_magnitudeText_eq with ⟨digit, others, magnitude_eq, isDigit⟩
  rw [characters_eq, magnitude_eq]
  cases decimal.isNegative with
  | false => exact ⟨digit, others, rfl, .inl isDigit⟩
  | true => exact ⟨'-', digit :: others, rfl, .inr rfl⟩

theorem not_mem_characters {character : Char} (notNumeric : ¬ IsNumeric character) :
    character ∉ decimal.characters :=
  fun member => notNumeric (decimal.isNumeric member)

theorem splitSign_characters :
    Numeral.splitSign decimal.characters = (decimal.isNegative, decimal.magnitudeText) := by
  rw [characters, magnitudeText, Numeral.splitSign_signText _ (decimal.whole.isUnsigned _)]
  cases decimal.isNegative <;> rfl

/-! ## Integers -/

theorem magnitudeText_eq {decimal : DecimalText} (isInteger : decimal.IsInteger) :
    decimal.magnitudeText = decimal.whole.characters := by
  simp [magnitudeText, fractionText, exponentText, isInteger.1, isInteger.2]

/-- An integer numeral that is not too long is read. -/
theorem readInteger_characters {decimal : DecimalText} (isInteger : decimal.IsInteger)
    (short : decimal.whole.characters.length ≤ longestInteger) :
    Numeral.readInteger 10 (Text.ofCharacters decimal.characters) = .ok decimal.integer := by
  have areDigits := decimal.whole.areDigits
  have run_eq : (decimal.whole.characters.takeWhile fun character =>
      (Numeral.digitValue? 10 character).isSome || character == '_') =
        decimal.whole.characters :=
    List.takeWhile_eq_self_iff.mpr fun character member => by
      simp [Numeral.digitValue?_isSome (areDigits character member)]
  have digits_eq : (decimal.whole.characters.filter fun character =>
      (Numeral.digitValue? 10 character).isSome) = decimal.whole.characters :=
    List.filter_eq_self.mpr fun character member =>
      Numeral.digitValue?_isSome (areDigits character member)
  have head_eq : (decimal.whole.characters.head? == some '_') = false := by
    rw [beq_eq_false_iff_ne]
    intro head
    exact absurd (areDigits '_' (List.mem_of_mem_head? head)) (by decide)
  unfold Numeral.readInteger
  simp only [Numeral.asciiSpelling_eq fun _ => decimal.isNumeric, splitSign_characters,
    Numeral.dropBase_ten, magnitudeText_eq isInteger, run_eq, digits_eq, head_eq,
    Numeral.isWellSeparated_of_isDigit areDigits]
  simp [decimal.whole.notEmpty, short, integer, Digits.value]

/-! ## Floating point numbers -/

/-- An exponent begins with its letter. -/
theorem exponentText_head? :
    ∀ character ∈ decimal.exponentText.head?, character = 'e' ∨ character = 'E' := by
  intro character head
  rcases decimal with ⟨isNegative, whole, _, fraction, - | exponent⟩
  · cases head
  · cases head
    cases exponent.isCapital <;> simp

theorem isDigit_exponentText_head? :
    ∀ character ∈ decimal.exponentText.head?, character.isDigit = false := by
  intro character head
  rcases decimal.exponentText_head? character head with rfl | rfl <;> decide

/-- After the whole part comes a point or the letter of the exponent. -/
theorem isDigit_rest_head? :
    ∀ character ∈ (decimal.fractionText ++ decimal.exponentText).head?,
      character.isDigit = false := by
  intro character head
  cases fraction_eq : decimal.fraction with
  | none =>
      have noText : decimal.fractionText = [] := by simp [fractionText, fraction_eq]
      rw [noText] at head
      exact decimal.isDigit_exponentText_head? character head
  | some fraction =>
      have point : character = '.' := by simpa [fractionText, fraction_eq, eq_comm] using head
      rw [point]
      decide

/-- What begins with a digit is no name of a number. -/
theorem lowerName_ne {first : Char} (notDigit : first.isDigit = false) (rest : List Char) :
    decimal.magnitudeText.map Char.toLower ≠ first :: rest := by
  rcases decimal.exists_magnitudeText_eq with ⟨digit, others, magnitude_eq, isDigit⟩
  rw [magnitude_eq]
  intro same
  have first_eq : digit.toLower = first := (List.cons.inj same).1
  rw [toLower_of_isDigit isDigit] at first_eq
  rw [first_eq, notDigit] at isDigit
  cases isDigit

theorem readUnsigned?_magnitudeText (negative : Bool) :
    Numeral.readUnsigned? negative decimal.magnitudeText =
      some (.ofDecimal negative
        (Numeral.digitsValue 10 (decimal.whole.characters ++ decimal.fractionDigits))
        (decimal.exponent.elim 0 Exponent.power - decimal.fractionDigits.length)) := by
  have notName : ∀ first rest, first.isDigit = false →
      String.ofList (decimal.magnitudeText.map Char.toLower) ≠ String.ofList (first :: rest) :=
    fun first rest notDigit same =>
      decimal.lowerName_ne notDigit rest (String.ofList_injective same)
  have whole_eq : decimal.magnitudeText.takeWhile Char.isDigit = decimal.whole.characters :=
    Text.takeWhile_append_of_stop decimal.whole.areDigits decimal.isDigit_rest_head?
  have rest_eq : decimal.magnitudeText.dropWhile Char.isDigit =
      decimal.fractionText ++ decimal.exponentText :=
    Text.dropWhile_append_of_stop decimal.whole.areDigits decimal.isDigit_rest_head?
  have exponent_eq (exponent : Exponent) :
      Numeral.splitSign (Numeral.signText exponent.sign ++ exponent.digits.characters) =
        (exponent.sign == some true, exponent.digits.characters) :=
    Numeral.splitSign_signText _ (by simpa using exponent.digits.isUnsigned [])
  have fraction_eq (fraction : Digits) :
      (fraction.characters ++ decimal.exponentText).takeWhile Char.isDigit =
          fraction.characters ∧
        (fraction.characters ++ decimal.exponentText).dropWhile Char.isDigit =
          decimal.exponentText :=
    ⟨Text.takeWhile_append_of_stop fraction.areDigits decimal.isDigit_exponentText_head?,
      Text.dropWhile_append_of_stop fraction.areDigits decimal.isDigit_exponentText_head?⟩
  unfold Numeral.readUnsigned?
  simp only [whole_eq, rest_eq]
  rw [if_neg, if_neg]
  · rcases decimal with ⟨isNegative, whole, _, - | fraction, - | ⟨isCapital, sign, digits⟩⟩
    · simp [fractionText, exponentText, fractionDigits, whole.notEmpty]
    · have digits_eq := exponent_eq ⟨isCapital, sign, digits⟩
      cases isCapital <;>
        simpa [fractionText, exponentText, fractionDigits, Exponent.characters, Exponent.power,
          Digits.value, digits_eq, whole.notEmpty, digits.notEmpty] using digits.areDigits
    · have split_eq := fraction_eq fraction
      simp only [exponentText, Option.elim_none, List.append_nil] at split_eq
      simp [fractionText, exponentText, fractionDigits, whole.notEmpty, split_eq]
    · have digits_eq := exponent_eq ⟨isCapital, sign, digits⟩
      have split_eq := fraction_eq fraction
      cases isCapital <;>
      · simp only [exponentText, Option.elim_some, Exponent.characters, if_true, if_false,
          Bool.false_eq_true] at split_eq
        simpa [fractionText, exponentText, fractionDigits, Exponent.characters, Exponent.power,
          Digits.value, digits_eq, split_eq, whole.notEmpty, digits.notEmpty]
          using digits.areDigits
  · exact notName 'n' _ (by decide)
  · rintro (isName | isName)
    · exact notName 'i' _ (by decide) isName
    · exact notName 'i' _ (by decide) isName

/-- Every numeral is read as a floating point number. -/
theorem readFloat_characters :
    Numeral.readFloat (Text.ofCharacters decimal.characters) = .ok decimal.float := by
  simp only [Numeral.readFloat, Numeral.asciiSpelling_eq fun _ => decimal.isNumeric,
    splitSign_characters, readUnsigned?_magnitudeText, float]

/-! ## Parts and letter case -/

/-- A numeral without its sign. -/
def unsigned (decimal : DecimalText) : DecimalText :=
  { decimal with isNegative := false }

/-- A numeral with a small letter before its exponent. -/
def lowered (decimal : DecimalText) : DecimalText :=
  { decimal with
    exponent := decimal.exponent.map fun exponent => { exponent with isCapital := false } }

theorem map_toLower_signText (sign : Option Bool) :
    (Numeral.signText sign).map Char.toLower = Numeral.signText sign := by
  rcases sign with - | (- | -) <;> rfl

theorem map_toLower_digits (digits : Digits) :
    digits.characters.map Char.toLower = digits.characters :=
  (List.map_congr_left fun character member =>
    toLower_of_isDigit (digits.areDigits character member)).trans (List.map_id _)

theorem characters_lowered : decimal.lowered.characters = decimal.characters.map Char.toLower := by
  rcases decimal with ⟨- | -, whole, _, - | fraction, - | ⟨isCapital, sign, digits⟩⟩ <;>
    simp [lowered, characters, magnitudeText, fractionText, exponentText, Exponent.characters,
      map_toLower_digits, map_toLower_signText, apply_ite Char.toLower]

theorem float_lowered : decimal.lowered.float = decimal.float := by
  rcases decimal with ⟨isNegative, whole, _, fraction, - | exponent⟩ <;> rfl

end DecimalText

/-! ## Signs of floating point numbers -/

theorem Binary64.negate_ofRatio (numerator denominator : Nat) :
    (ofRatio false numerator denominator).negate = ofRatio true numerator denominator := by
  unfold ofRatio
  split
  · rfl
  · simp only
    repeat' split
    all_goals rfl

theorem Binary64.negate_ofDecimal (significand : Nat) (exponent : Int) :
    (ofDecimal false significand exponent).negate = ofDecimal true significand exponent := by
  unfold ofDecimal
  simp only
  split
  · rfl
  split
  · rfl
  cases exponent with
  | ofNat power => exact negate_ofRatio _ _
  | negSucc power => exact negate_ofRatio _ _

/-- The sign of a numeral is that of its number. -/
theorem DecimalText.float_eq (decimal : DecimalText) : decimal.float =
    if decimal.isNegative then decimal.unsigned.float.negate else decimal.unsigned.float := by
  rcases decimal with ⟨- | -, whole, noZeroAhead, fraction, exponent⟩
  · rfl
  · exact (Binary64.negate_ofDecimal _ _).symm

end UsageContracts
