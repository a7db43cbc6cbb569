import Mathlib.Algebra.Group.Nat.Defs
import UsageContracts.Text.Numeral

/-!
# Numbers of code points and hexadecimal numerals

A code point is found by its number, and a hexadecimal numeral is read back as its
number, with or without zeros ahead.
-/

namespace UsageContracts

/-- A code point has the number that it is found by. -/
theorem CodePoint.ofNumber?_number (point : CodePoint) : ofNumber? point.number = some point := by
  cases point with
  | scalar value =>
      have valid : value.toNat < 0xD800 ∨ 0xDFFF < value.toNat ∧ value.toNat < 0x110000 :=
        value.valid
      have notHalf : ¬ (0xD800 ≤ value.toNat ∧ value.toNat < 0xE000) := by omega
      have inSpace : value.toNat < 0x110000 := by omega
      simp only [ofNumber?, number, notHalf, inSpace, dite_false, if_true, Char.ofNat_toNat]
  | surrogate half =>
      have bounds : 0xD800 ≤ 0xD800 + half.val ∧ 0xD800 + half.val < 0xE000 := by omega
      simp [ofNumber?, number, bounds]

theorem CodePoint.number_injective : Function.Injective number := by
  intro point other number_eq
  have found := ofNumber?_number point
  rw [number_eq, ofNumber?_number other] at found
  exact (Option.some.inj found).symm

namespace Text

theorem hexadecimalDigit?_digitChar {digit : Nat} (small : digit < 16) :
    hexadecimalDigit? digit.digitChar = some digit := by
  have each : ∀ digit < 16, hexadecimalDigit? (Nat.digitChar digit) = some digit := by
    decide
  exact each digit small

theorem hexadecimalNumber?_append_singleton (digits : List Char) (digit : Char) :
    hexadecimalNumber? (digits ++ [digit]) =
      (hexadecimalNumber? digits).bind fun number =>
        (16 * number + ·) <$> hexadecimalDigit? digit := by
  simp [hexadecimalNumber?, List.foldlM_append, Option.bind_eq_bind]

theorem hexadecimalNumber?_toDigits (number : Nat) :
    hexadecimalNumber? (Nat.toDigits 16 number) = some number := by
  induction number using Nat.strongRecOn with
  | _ number ih =>
      rw [Nat.toDigits_eq_if (by decide)]
      split
      · next small => simp [hexadecimalNumber?, hexadecimalDigit?_digitChar small]
      · next large =>
          have smaller : number / 16 < number := by omega
          have last : number % 16 < 16 := by omega
          rw [hexadecimalNumber?_append_singleton, ih _ smaller, Option.bind_some,
            hexadecimalDigit?_digitChar last, Option.map_eq_map, Option.map_some,
            Nat.div_add_mod]

theorem hexadecimalNumber?_zeros_append (zeros : Nat) (digits : List Char) :
    hexadecimalNumber? (List.replicate zeros '0' ++ digits) = hexadecimalNumber? digits := by
  induction zeros with
  | zero => rfl
  | succ zeros ih =>
      have zero : hexadecimalDigit? '0' = some 0 := by
        decide
      rw [List.replicate_succ, List.cons_append, ← ih]
      simp [hexadecimalNumber?, zero]

/-- A numeral is made of digits. -/
theorem isSome_of_hexadecimalNumber? {digits : List Char} {number : Nat}
    (number_eq : hexadecimalNumber? digits = some number) :
    ∀ digit ∈ digits, (hexadecimalDigit? digit).isSome = true := by
  unfold hexadecimalNumber? at number_eq
  generalize 0 = start at number_eq
  induction digits generalizing start with
  | nil => exact List.forall_mem_nil _
  | cons digit digits ih =>
      cases value_eq : hexadecimalDigit? digit with
      | none => simp [value_eq] at number_eq
      | some value =>
          simp only [List.foldlM_cons, value_eq, Option.map_eq_map, Option.map_some,
            Option.bind_eq_bind, Option.bind_some] at number_eq
          exact List.forall_mem_cons.mpr ⟨by rw [value_eq]; rfl, ih _ number_eq⟩

/-- A number that is short enough is written with as many digits as demanded,
and these digits are read as the number. -/
theorem exists_hexadecimal_eq {width number : Nat} (positive : 0 < width)
    (short : number < 16 ^ width) :
    ∃ digits : List Char, hexadecimal width number = ofCharacters digits ∧
      digits.length = width ∧ hexadecimalNumber? digits = some number := by
  have fits : (Nat.toDigits 16 number).length ≤ width :=
    (Nat.length_toDigits_le_iff (by decide) positive).mpr short
  refine ⟨List.replicate (width - (Nat.toDigits 16 number).length) '0' ++
    Nat.toDigits 16 number, ?_, ?_, ?_⟩
  · simp [hexadecimal, padLeft, ofCharacters]
  · rw [List.length_append, List.length_replicate]
    omega
  · rw [hexadecimalNumber?_zeros_append, hexadecimalNumber?_toDigits]

end Text

end UsageContracts
