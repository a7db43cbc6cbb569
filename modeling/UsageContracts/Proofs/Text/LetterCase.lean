import Mathlib.Data.List.Forall2
import UsageContracts.Proofs.Text.Numeral
import UsageContracts.Text.Blank
import UsageContracts.Text.LetterCase

/-!
# Letter case of ASCII

Upper case exchanges the small letters of ASCII for its capital letters and leaves the
other code points of ASCII and all white space as they are.  It takes a name in capitals
back from every letter case.
-/

namespace UsageContracts

/-! ## Characters -/

section

variable (character : Char)

theorem toNat_toUpper : character.toUpper.toNat =
    if 97 ≤ character.toNat ∧ character.toNat ≤ 122 then character.toNat - 32
    else character.toNat := by
  have isSmall_iff : ('a'.val ≤ character.val ∧ character.val ≤ 'z'.val) ↔
      97 ≤ character.toNat ∧ character.toNat ≤ 122 := by
    simp only [UInt32.le_iff_toNat_le]
    exact Iff.rfl
  delta Char.toUpper
  by_cases isSmall : 97 ≤ character.toNat ∧ character.toNat ≤ 122
  · rw [dif_pos (isSmall_iff.mpr isSmall), if_pos isSmall]
    -- The distance between the cases is negative, so the sum of the words wraps around.
    have distance : ('A'.val - 'a'.val).toNat = 2 ^ 32 - 32 := by
      decide
    change (character.val + ('A'.val - 'a'.val)).toNat = character.val.toNat - 32
    change 97 ≤ character.val.toNat ∧ character.val.toNat ≤ 122 at isSmall
    rw [UInt32.toNat_add, distance]
    omega
  · rw [dif_neg (isSmall ∘ isSmall_iff.mp), if_neg isSmall]

theorem toNat_toLower : character.toLower.toNat =
    if 65 ≤ character.toNat ∧ character.toNat ≤ 90 then character.toNat + 32
    else character.toNat := by
  have isCapital_iff : ('A'.val ≤ character.val ∧ character.val ≤ 'Z'.val) ↔
      65 ≤ character.toNat ∧ character.toNat ≤ 90 := by
    simp only [UInt32.le_iff_toNat_le]
    exact Iff.rfl
  delta Char.toLower
  by_cases isCapital : 65 ≤ character.toNat ∧ character.toNat ≤ 90
  · rw [dif_pos (isCapital_iff.mpr isCapital), if_pos isCapital]
    have distance : ('a'.val - 'A'.val).toNat = 32 := by
      decide
    change (character.val + ('a'.val - 'A'.val)).toNat = character.val.toNat + 32
    change 65 ≤ character.val.toNat ∧ character.val.toNat ≤ 90 at isCapital
    rw [UInt32.toNat_add, distance]
    omega
  · rw [dif_neg (isCapital ∘ isCapital_iff.mp), if_neg isCapital]

end

/-! ## Code points -/

namespace CodePoint

/-- The capital letter of a small letter of ASCII; other code points stay. -/
def asciiUpper : CodePoint → CodePoint
  | .scalar character => .scalar character.toUpper
  | point => point

/-- The small letter of a capital letter of ASCII; other code points stay. -/
def asciiLower : CodePoint → CodePoint
  | .scalar character => .scalar character.toLower
  | point => point

theorem number_asciiUpper (point : CodePoint) : point.asciiUpper.number =
    if 97 ≤ point.number ∧ point.number ≤ 122 then point.number - 32 else point.number := by
  cases point with
  | scalar character => exact toNat_toUpper character
  | surrogate half =>
      have large : ¬ (0xD800 + half.val ≤ 122) := by omega
      simp only [asciiUpper, number, large, and_false, if_false]

theorem number_asciiLower (point : CodePoint) : point.asciiLower.number =
    if 65 ≤ point.number ∧ point.number ≤ 90 then point.number + 32 else point.number := by
  cases point with
  | scalar character => exact toNat_toLower character
  | surrogate half =>
      have large : ¬ (0xD800 + half.val ≤ 90) := by omega
      simp only [asciiLower, number, large, and_false, if_false]

/-- Whether a code point is one that names in capitals are made of. -/
def IsNameLetter (letter : CodePoint) : Prop :=
  letter = '_' ∨ 65 ≤ letter.number ∧ letter.number ≤ 90

instance (letter : CodePoint) : Decidable (IsNameLetter letter) :=
  inferInstanceAs (Decidable (_ ∨ _))

/-- Whether a code point is one that names are made of in either case. -/
def IsEitherCase (point : CodePoint) : Prop :=
  point.IsNameLetter ∨ 97 ≤ point.number ∧ point.number ≤ 122

variable {point letter : CodePoint}

theorem isNameLetter_iff : letter.IsNameLetter ↔
    letter.number = 95 ∨ 65 ≤ letter.number ∧ letter.number ≤ 90 := by
  rw [IsNameLetter, ← number_injective.eq_iff]
  rfl

theorem IsEitherCase.isAscii (eitherCase : point.IsEitherCase) : point.isAscii = true := by
  rw [IsEitherCase, isNameLetter_iff] at eitherCase
  exact decide_eq_true (by omega)

theorem IsNameLetter.of_case (isLetter : letter.IsNameLetter)
    (same : point = letter ∨ point = letter.asciiLower) :
    point.IsEitherCase ∧ point.asciiUpper = letter := by
  rw [IsEitherCase, isNameLetter_iff, ← number_injective.eq_iff, number_asciiUpper]
  rw [isNameLetter_iff] at isLetter
  rw [← number_injective.eq_iff, ← number_injective.eq_iff, number_asciiLower] at same
  split_ifs at same ⊢ <;> omega

end CodePoint

/-! ## Texts -/

namespace Text

theorem upper_append (first second : Text) :
    upper (first ++ second) = first.upper ++ second.upper :=
  List.flatMap_append

/-- Other code points have ASCII in their upper case as well, but neither in ASCII nor
among white space. -/
theorem upper_singleton {point : CodePoint} (plain : point.isAscii = true ∨ point.isBlank = true) :
    upper [point] = [point.asciiUpper] := by
  cases point with
  | surrogate half => rfl
  | scalar character =>
      have upper?_eq : CodePoint.asciiUpper? (.scalar character) =
          if character.isLower then some [.scalar character.toUpper] else none := by
        unfold CodePoint.asciiUpper?
        split
        -- The listed code points are neither in ASCII nor white space.
        case h_12 other _ _ _ _ _ _ _ _ _ _ same => rw [CodePoint.scalar.inj same]
        all_goals
          next same =>
            cases same
            try exact absurd plain (by decide)
      simp only [upper, List.flatMap_singleton, upper?_eq]
      cases isLower : character.isLower with
      | true => rfl
      | false =>
          have outside : (decide (character.val ≥ 'a'.val) && decide (character.val ≤ 'z'.val)) =
              false := isLower
          have upper_eq : character.toUpper = character := dif_neg (by simpa using outside)
          simp only [Bool.false_eq_true, if_false, Option.getD_none, CodePoint.asciiUpper, upper_eq]

/-- Whether a text is a name in capitals with some of the letters in lower case. -/
def IsCaseOf (variant name : Text) : Prop :=
  List.Forall₂ (fun point letter : CodePoint => point = letter ∨ point = letter.asciiLower)
    variant name

instance (variant name : Text) : Decidable (variant.IsCaseOf name) :=
  inferInstanceAs (Decidable (List.Forall₂ _ _ _))

variable {variant name : Text}

/-- Such a text has nothing but what names are made of in either case. -/
theorem IsCaseOf.forall_mem (isCase : variant.IsCaseOf name)
    (letters : ∀ letter ∈ name, letter.IsNameLetter) :
    ∀ point ∈ variant, point.IsEitherCase := by
  induction isCase with
  | nil => exact List.forall_mem_nil _
  | cons same _ ih =>
      obtain ⟨isLetter, areLetters⟩ := List.forall_mem_cons.mp letters
      exact List.forall_mem_cons.mpr ⟨(isLetter.of_case same).1, ih areLetters⟩

theorem IsCaseOf.upper_eq (isCase : variant.IsCaseOf name)
    (letters : ∀ letter ∈ name, letter.IsNameLetter) : variant.upper = name := by
  induction isCase with
  | nil => rfl
  | @cons point letter variant name same _ ih =>
      obtain ⟨isLetter, areLetters⟩ := List.forall_mem_cons.mp letters
      obtain ⟨eitherCase, upper_eq⟩ := isLetter.of_case same
      rw [← List.singleton_append, upper_append, upper_singleton (.inl eitherCase.isAscii),
        ih areLetters, upper_eq, List.singleton_append]

end Text

end UsageContracts
