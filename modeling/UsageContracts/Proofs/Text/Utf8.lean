import UsageContracts.Proofs.Text.Numeral
import UsageContracts.Proofs.Text.Characters
import UsageContracts.Text.Utf8

/-!
# Reading characters back from UTF-8

The bytes that write characters in UTF-8 are read back as these characters, whether
halves of surrogate pairs are taken or not: no character is one.
-/

namespace UsageContracts.Text

/-- The bytes of characters in UTF-8. -/
def utf8Bytes (characters : List Char) : List UInt8 :=
  characters.flatMap String.utf8EncodeChar

@[simp]
theorem utf8Bytes_nil : utf8Bytes [] = [] :=
  rfl

theorem utf8Bytes_cons (character : Char) (characters : List Char) :
    utf8Bytes (character :: characters) =
      String.utf8EncodeChar character ++ utf8Bytes characters :=
  rfl

/-- The bytes of one character, by its number. -/
theorem utf8EncodeChar_eq (character : Char) :
    String.utf8EncodeChar character =
      let number := character.toNat
      if number ≤ 0x7F then [.ofNat number]
      else if number ≤ 0x7FF then
        [.ofNat (number / 0x40 % 0x20 + 0xC0), .ofNat (number % 0x40 + 0x80)]
      else if number ≤ 0xFFFF then
        [.ofNat (number / 0x1000 % 0x10 + 0xE0), .ofNat (number / 0x40 % 0x40 + 0x80),
          .ofNat (number % 0x40 + 0x80)]
      else
        [.ofNat (number / 0x40000 % 8 + 0xF0), .ofNat (number / 0x1000 % 0x40 + 0x80),
          .ofNat (number / 0x40 % 0x40 + 0x80), .ofNat (number % 0x40 + 0x80)] :=
  rfl

/-! ## First bytes -/

theorem ByteRange.contains_iff {range : ByteRange} {byte : UInt8} :
    range.contains byte = true ↔ range.first ≤ byte.toNat ∧ byte.toNat ≤ range.last := by
  rw [contains, Bool.and_eq_true, decide_eq_true_eq, decide_eq_true_eq]

section

variable (takesHalves : Bool) {byte second : UInt8} {bits : Nat}

theorem leadingByte?_of_one (one : byte.toNat < 0x80) :
    leadingByte? takesHalves byte = some (byte.toNat, []) := by
  simp only [leadingByte?, if_pos one]

theorem leadingByte?_of_two (byte_eq : byte.toNat = bits + 0xC0) (lower : 2 ≤ bits)
    (upper : bits < 0x20) :
    leadingByte? takesHalves byte = some (bits, [continuation]) := by
  have notOne : ¬ byte.toNat < 0x80 := by omega
  have notShort : ¬ byte.toNat < 0xC2 := by omega
  have two : byte.toNat < 0xE0 := by omega
  have bits_eq : byte.toNat - 0xC0 = bits := by omega
  simp only [leadingByte?, if_neg notOne, if_neg notShort, if_pos two, bits_eq]

/-- The first of three bytes keeps out the numbers that need less, and it may keep out
halves. -/
theorem leadingByte?_of_three (byte_eq : byte.toNat = bits + 0xE0) (upper : bits < 0x10)
    (goesOn : continuation.contains second = true) (notShort : bits = 0 → 0xA0 ≤ second.toNat)
    (notHalf : bits = 0xD → second.toNat ≤ 0x9F) :
    ∃ range, leadingByte? takesHalves byte = some (bits, [range, continuation]) ∧
      range.contains second = true := by
  have notOne : ¬ byte.toNat < 0x80 := by omega
  have valid : ¬ byte.toNat < 0xC2 := by omega
  have notTwo : ¬ byte.toNat < 0xE0 := by omega
  have three : byte.toNat < 0xF0 := by omega
  obtain ⟨low, high⟩ := ByteRange.contains_iff.mp goesOn
  simp only [leadingByte?, if_neg notOne, if_neg valid, if_neg notTwo, if_pos three]
  by_cases lowest : byte.toNat = 0xE0
  · have bits_eq : bits = 0 := by omega
    rw [if_pos lowest, bits_eq]
    exact ⟨_, rfl, ByteRange.contains_iff.mpr ⟨notShort bits_eq, high⟩⟩
  rw [if_neg lowest]
  by_cases ofHalves : byte.toNat = 0xED ∧ (!takesHalves) = true
  · have bits_eq : bits = 0xD := by omega
    rw [if_pos ofHalves, bits_eq]
    exact ⟨_, rfl, ByteRange.contains_iff.mpr ⟨low, notHalf bits_eq⟩⟩
  · have bits_eq : byte.toNat - 0xE0 = bits := by omega
    rw [if_neg ofHalves, bits_eq]
    exact ⟨_, rfl, goesOn⟩

/-- The first of four bytes keeps out the numbers that need less, and those that no
character has. -/
theorem leadingByte?_of_four (byte_eq : byte.toNat = bits + 0xF0) (upper : bits ≤ 4)
    (goesOn : continuation.contains second = true) (notShort : bits = 0 → 0x90 ≤ second.toNat)
    (inSpace : bits = 4 → second.toNat ≤ 0x8F) :
    ∃ range,
      leadingByte? takesHalves byte = some (bits, [range, continuation, continuation]) ∧
        range.contains second = true := by
  have notOne : ¬ byte.toNat < 0x80 := by omega
  have valid : ¬ byte.toNat < 0xC2 := by omega
  have notTwo : ¬ byte.toNat < 0xE0 := by omega
  have notLowest : ¬ byte.toNat = 0xE0 := by omega
  have notOfHalves : ¬ (byte.toNat = 0xED ∧ (!takesHalves) = true) := by omega
  have notThree : ¬ byte.toNat < 0xF0 := by omega
  obtain ⟨low, high⟩ := ByteRange.contains_iff.mp goesOn
  simp only [leadingByte?, if_neg notOne, if_neg valid, if_neg notTwo, if_neg notLowest,
    if_neg notOfHalves, if_neg notThree]
  by_cases lowest : byte.toNat = 0xF0
  · have bits_eq : bits = 0 := by omega
    rw [if_pos lowest, bits_eq]
    exact ⟨_, rfl, ByteRange.contains_iff.mpr ⟨notShort bits_eq, high⟩⟩
  rw [if_neg lowest]
  by_cases middle : byte.toNat < 0xF4
  · have bits_eq : byte.toNat - 0xF0 = bits := by omega
    rw [if_pos middle, bits_eq]
    exact ⟨_, rfl, goesOn⟩
  · have highest : byte.toNat = 0xF4 := by omega
    have bits_eq : bits = 4 := by omega
    rw [if_neg middle, if_pos highest, bits_eq]
    exact ⟨_, rfl, ByteRange.contains_iff.mpr ⟨low, inSpace bits_eq⟩⟩

end

/-! ## Reading a character -/

section

variable {takesHalves : Bool} {start number : Nat} {passed bytes : List UInt8} {byte : UInt8}
  {range : ByteRange}

theorem readUtf8From_leading {next : ByteRange} {expected : List ByteRange}
    (leading : leadingByte? takesHalves byte = some (number, next :: expected)) :
    readUtf8From takesHalves start {} (byte :: bytes) =
      readUtf8From takesHalves start ⟨number, [byte], next :: expected⟩ bytes := by
  simp only [readUtf8From, Utf8State.read, leading]

theorem readUtf8From_more {next : ByteRange} {expected : List ByteRange}
    (inRange : range.contains byte = true) :
    readUtf8From takesHalves start ⟨number, passed, range :: next :: expected⟩ (byte :: bytes) =
      readUtf8From takesHalves start
        ⟨number * 0x40 + byte.toNat % 0x40, byte :: passed, next :: expected⟩ bytes := by
  simp only [readUtf8From, Utf8State.read, inRange, if_true, List.isEmpty_cons,
    Bool.false_eq_true, if_false]

theorem readUtf8From_last (inRange : range.contains byte = true) :
    readUtf8From takesHalves start ⟨number, passed, [range]⟩ (byte :: bytes) =
      (writtenPoint (number * 0x40 + byte.toNat % 0x40) :: ·) <$>
        readUtf8From takesHalves (start + passed.length + 1) {} bytes := by
  simp only [readUtf8From, Utf8State.read, inRange, if_true, List.isEmpty_nil]

end

theorem writtenPoint_number (point : CodePoint) : writtenPoint point.number = point := by
  rw [writtenPoint, CodePoint.ofNumber?_number, Option.getD_some]

/-- A byte that goes on with a character holds six bits. -/
theorem continuation_contains (number : Nat) :
    continuation.contains (.ofNat (number % 0x40 + 0x80)) = true ∧
      (UInt8.ofNat (number % 0x40 + 0x80)).toNat = number % 0x40 + 0x80 := by
  have byte_eq : (UInt8.ofNat (number % 0x40 + 0x80)).toNat = number % 0x40 + 0x80 := by
    exact UInt8.toNat_ofNat_of_lt' (by simp only [UInt8.size]; omega)
  refine ⟨ByteRange.contains_iff.mpr ?_, byte_eq⟩
  rw [byte_eq]
  simp only [continuation]
  omega

section

variable (takesHalves : Bool) (start : Nat) {number : Nat} (bytes : List UInt8)

theorem readUtf8From_one (upper : number < 0x80) :
    readUtf8From takesHalves start {} (.ofNat number :: bytes) =
      (writtenPoint number :: ·) <$> readUtf8From takesHalves (start + 1) {} bytes := by
  have byte_eq : (UInt8.ofNat number).toNat = number :=
    UInt8.toNat_ofNat_of_lt' (by simp only [UInt8.size]; omega)
  have one : (UInt8.ofNat number).toNat < 0x80 := by omega
  simp only [readUtf8From, Utf8State.read, leadingByte?_of_one takesHalves one, byte_eq,
    List.length_nil, Nat.add_zero]

theorem readUtf8From_two (lower : 0x80 ≤ number) (upper : number < 0x800) :
    readUtf8From takesHalves start {}
        (.ofNat (number / 0x40 % 0x20 + 0xC0) :: .ofNat (number % 0x40 + 0x80) :: bytes) =
      (writtenPoint number :: ·) <$> readUtf8From takesHalves (start + 2) {} bytes := by
  obtain ⟨isLast, last_eq⟩ := continuation_contains number
  have first_eq : (UInt8.ofNat (number / 0x40 % 0x20 + 0xC0)).toNat =
      number / 0x40 % 0x20 + 0xC0 :=
    UInt8.toNat_ofNat_of_lt' (by simp only [UInt8.size]; omega)
  have leading := leadingByte?_of_two takesHalves first_eq (by omega) (by omega)
  have number_eq : number / 0x40 % 0x20 * 0x40 + (number % 0x40 + 0x80) % 0x40 = number := by
    omega
  rw [readUtf8From_leading leading, readUtf8From_last isLast, last_eq, number_eq]
  rfl

theorem readUtf8From_three (lower : 0x800 ≤ number) (upper : number < 0x10000)
    (notHalf : number < 0xD800 ∨ 0xDFFF < number) :
    readUtf8From takesHalves start {}
        (.ofNat (number / 0x1000 % 0x10 + 0xE0) :: .ofNat (number / 0x40 % 0x40 + 0x80) ::
          .ofNat (number % 0x40 + 0x80) :: bytes) =
      (writtenPoint number :: ·) <$> readUtf8From takesHalves (start + 3) {} bytes := by
  obtain ⟨isLast, last_eq⟩ := continuation_contains number
  obtain ⟨isSecond, second_eq⟩ := continuation_contains (number / 0x40)
  have first_eq : (UInt8.ofNat (number / 0x1000 % 0x10 + 0xE0)).toNat =
      number / 0x1000 % 0x10 + 0xE0 :=
    UInt8.toNat_ofNat_of_lt' (by simp only [UInt8.size]; omega)
  obtain ⟨range, leading, inRange⟩ := leadingByte?_of_three takesHalves first_eq (by omega)
    isSecond (by omega) (by omega)
  have number_eq : (number / 0x1000 % 0x10 * 0x40 + (number / 0x40 % 0x40 + 0x80) % 0x40) * 0x40 +
      (number % 0x40 + 0x80) % 0x40 = number := by
    omega
  rw [readUtf8From_leading leading, readUtf8From_more inRange, readUtf8From_last isLast,
    second_eq, last_eq, number_eq]
  rfl

theorem readUtf8From_four (lower : 0x10000 ≤ number) (upper : number < 0x110000) :
    readUtf8From takesHalves start {}
        (.ofNat (number / 0x40000 % 8 + 0xF0) :: .ofNat (number / 0x1000 % 0x40 + 0x80) ::
          .ofNat (number / 0x40 % 0x40 + 0x80) :: .ofNat (number % 0x40 + 0x80) :: bytes) =
      (writtenPoint number :: ·) <$> readUtf8From takesHalves (start + 4) {} bytes := by
  obtain ⟨isLast, last_eq⟩ := continuation_contains number
  obtain ⟨isThird, third_eq⟩ := continuation_contains (number / 0x40)
  obtain ⟨isSecond, second_eq⟩ := continuation_contains (number / 0x1000)
  have first_eq : (UInt8.ofNat (number / 0x40000 % 8 + 0xF0)).toNat =
      number / 0x40000 % 8 + 0xF0 :=
    UInt8.toNat_ofNat_of_lt' (by simp only [UInt8.size]; omega)
  obtain ⟨range, leading, inRange⟩ := leadingByte?_of_four takesHalves first_eq (by omega)
    isSecond (by omega) (by omega)
  have number_eq : ((number / 0x40000 % 8 * 0x40 + (number / 0x1000 % 0x40 + 0x80) % 0x40) *
      0x40 + (number / 0x40 % 0x40 + 0x80) % 0x40) * 0x40 + (number % 0x40 + 0x80) % 0x40 =
        number := by
    omega
  rw [readUtf8From_leading leading, readUtf8From_more inRange, readUtf8From_more isThird,
    readUtf8From_last isLast, second_eq, third_eq, last_eq, number_eq]
  rfl

end

/-- The bytes of a character are read as the character. -/
theorem exists_readUtf8From_character (takesHalves : Bool) (start : Nat) (character : Char)
    (bytes : List UInt8) :
    ∃ next, readUtf8From takesHalves start {} (String.utf8EncodeChar character ++ bytes) =
      (.scalar character :: ·) <$> readUtf8From takesHalves next {} bytes := by
  have point_eq : writtenPoint character.toNat = .scalar character :=
    writtenPoint_number (.scalar character)
  have valid : character.toNat < 0xD800 ∨ 0xDFFF < character.toNat ∧ character.toNat < 0x110000 :=
    character.valid
  rw [utf8EncodeChar_eq, ← point_eq]
  dsimp only
  split
  · exact ⟨_, readUtf8From_one takesHalves start bytes (by omega)⟩
  split
  · exact ⟨_, readUtf8From_two takesHalves start bytes (by omega) (by omega)⟩
  split
  · exact ⟨_, readUtf8From_three takesHalves start bytes (by omega) (by omega) (by omega)⟩
  · exact ⟨_, readUtf8From_four takesHalves start bytes (by omega) (by omega)⟩

/-- The bytes of characters are read as the characters. -/
theorem readUtf8From_utf8Bytes (takesHalves : Bool) (start : Nat) (characters : List Char) :
    readUtf8From takesHalves start {} (utf8Bytes characters) = .ok (ofCharacters characters) := by
  induction characters generalizing start with
  | nil => rfl
  | cons character characters ih =>
      obtain ⟨next, read_eq⟩ :=
        exists_readUtf8From_character takesHalves start character (utf8Bytes characters)
      rw [utf8Bytes_cons, read_eq, ih]
      rfl

theorem readUtf8_utf8Bytes (takesHalves : Bool) (characters : List Char) :
    readUtf8 takesHalves (utf8Bytes characters) = .ok (ofCharacters characters) :=
  readUtf8From_utf8Bytes takesHalves 0 characters

end UsageContracts.Text
