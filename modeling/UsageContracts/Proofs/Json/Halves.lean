import Mathlib.Data.List.Forall2
import UsageContracts.Json.Layout
import UsageContracts.Proofs.Text.Characters

/-!
# Halves of code points

An escape in JSON text has four hexadecimal digits, and a code point whose number
has more of them is written as two escapes, one for each half of a surrogate
pair.  The text of a JSON value therefore does not tell such code points from
their halves.
-/

namespace UsageContracts

/-- The code points that the escapes of a code point name: itself, or the two
halves of its surrogate pair if its number has more than four hexadecimal
digits. -/
def CodePoint.halves (point : CodePoint) : Text :=
  if point.number < 0x10000 then
    [point]
  else
    let offset := point.number - 0x10000
    [.surrogate (Fin.ofNat 2048 (offset / 0x400)),
      .surrogate (Fin.ofNat 2048 (0x400 + offset % 0x400))]

/-- A text with the halves of its code points. -/
def Text.halved (text : Text) : Text :=
  text.flatMap CodePoint.halves

namespace CodePoint

theorem number_lt (point : CodePoint) : point.number < 0x110000 := by
  cases point with
  | surrogate half =>
      simp only [number]
      omega
  | scalar character =>
      rcases character.valid with low | ⟨-, high⟩
      · exact Nat.lt_trans low (by decide)
      · exact high

theorem number_surrogate_lt (half : Fin 2048) : (surrogate half).number < 0x10000 := by
  simp only [number]
  omega

theorem halves_of_basic {point : CodePoint} (basic : point.number < 0x10000) :
    point.halves = [point] :=
  if_pos basic

theorem halves_isBasic (point : CodePoint) : Text.IsBasic point.halves := by
  unfold halves
  split
  · next basic => simpa [Text.IsBasic] using basic
  · simp [Text.IsBasic, number_surrogate_lt]

theorem halves_ne_nil (point : CodePoint) : point.halves ≠ [] := by
  unfold halves
  split <;> simp

end CodePoint

namespace Text

@[simp]
theorem halved_eq_nil_iff {text : Text} : text.halved = [] ↔ text = [] := by
  cases text with
  | nil => simp [halved]
  | cons point text => simp [halved, CodePoint.halves_ne_nil]

theorem isEmpty_halved (text : Text) : text.halved.isEmpty = text.isEmpty := by
  rw [Bool.eq_iff_iff, List.isEmpty_iff, List.isEmpty_iff, halved_eq_nil_iff]

theorem halved_isBasic (text : Text) : text.halved.IsBasic := by
  intro other member
  rcases List.mem_flatMap.mp member with ⟨point, -, inHalves⟩
  exact point.halves_isBasic other inHalves

/-- A text stays as it is when it is halved exactly if it is basic. -/
theorem halved_eq_self_iff {text : Text} : text.halved = text ↔ text.IsBasic := by
  constructor
  · intro halved_eq
    exact halved_eq ▸ halved_isBasic text
  · intro basic
    induction text with
    | nil => rfl
    | cons point text ih =>
        have rest_eq : halved text = text :=
          ih fun other member => basic other (List.mem_cons_of_mem _ member)
        rw [halved, List.flatMap_cons, CodePoint.halves_of_basic (basic point List.mem_cons_self),
          ← halved, rest_eq]
        rfl

end Text

namespace Json

/-! ## Strings -/

/-- A surrogate half is written as the escape of its number. -/
theorem escapePoint_surrogate (half : Fin 2048) :
    escapePoint (.surrogate half) = numberEscape (0xD800 + half) := by
  have notPrintable : ¬ (0x20 ≤ (CodePoint.surrogate half).number ∧
      (CodePoint.surrogate half).number < 0x7F) := by
    simp only [CodePoint.number]
    omega
  simp only [escapePoint, reduceCtorEq, if_false, notPrintable,
    CodePoint.number_surrogate_lt, if_true]
  rfl

/-- A code point that is not basic is written as the escapes of its halves. -/
theorem escapePoint_of_not_basic {point : CodePoint} (large : ¬ point.number < 0x10000) :
    escapePoint point =
      numberEscape (0xD800 + (point.number - 0x10000) / 0x400) ++
        numberEscape (0xDC00 + (point.number - 0x10000) % 0x400) := by
  have ne_of_basic {other : Char} (basic : other.toNat < 0x10000) :
      point ≠ .scalar other := by
    rintro rfl
    exact large basic
  have notPrintable : ¬ (0x20 ≤ point.number ∧ point.number < 0x7F) := by
    omega
  rw [escapePoint]
  iterate 7 rw [if_neg (ne_of_basic (by decide))]
  rw [if_neg notPrintable, if_neg large]

/-- The halves of a code point are written like the code point. -/
theorem flatMap_escapePoint_halves (point : CodePoint) :
    point.halves.flatMap escapePoint = escapePoint point := by
  by_cases basic : point.number < 0x10000
  · rw [CodePoint.halves_of_basic basic, List.flatMap_singleton]
  · have bound := point.number_lt
    have high_eq : (point.number - 0x10000) / 0x400 % 2048 = (point.number - 0x10000) / 0x400 := by
      omega
    have low_eq : (0x400 + (point.number - 0x10000) % 0x400) % 2048 =
        0x400 + (point.number - 0x10000) % 0x400 := by
      omega
    rw [CodePoint.halves, if_neg basic, escapePoint_of_not_basic basic]
    simp only [List.flatMap_cons, List.flatMap_nil, List.append_nil, escapePoint_surrogate,
      Fin.val_ofNat, high_eq, low_eq, ← Nat.add_assoc]

theorem quote_halved (text : Text) : quote text.halved = quote text := by
  simp only [quote, Text.halved, List.flatMap_assoc, flatMap_escapePoint_halves]

/-! ## Values -/

/-- Values that are written alike in every layout and at every depth. -/
def WrittenAlike (json other : Json) : Prop :=
  ∀ layout depth, writeAt layout depth json = writeAt layout depth other

/-- Members with the same names and with values that are written alike. -/
abbrev MembersWrittenAlike : List (Text × Json) → List (Text × Json) → Prop :=
  List.Forall₂ fun first second => first.1 = second.1 ∧ WrittenAlike first.2 second.2

namespace WrittenAlike

theorem refl (json : Json) : WrittenAlike json json :=
  fun _ _ => rfl

theorem text_halved (text : Text) : WrittenAlike (.text text.halved) (.text text) := by
  intro layout depth
  rw [writeAt, writeAt, quote_halved]

theorem writeItems_eq {items others : List Json} (alike : List.Forall₂ WrittenAlike items others)
    (layout : Layout) (depth : Nat) :
    writeItems layout depth items = writeItems layout depth others := by
  induction alike with
  | nil => rfl
  | cons item _ ih => rw [writeItems, writeItems, item layout depth, ih]

theorem list {items others : List Json} (alike : List.Forall₂ WrittenAlike items others) :
    WrittenAlike (.list items) (.list others) := by
  intro layout depth
  cases alike with
  | nil => rfl
  | cons item rest => rw [writeAt, writeAt, item layout (depth + 1), writeItems_eq rest]

theorem list_map {α : Type} {write other : α → Json} {items : List α}
    (alike : ∀ item ∈ items, WrittenAlike (write item) (other item)) :
    WrittenAlike (.list (items.map write)) (.list (items.map other)) :=
  list <| List.forall₂_map_left_iff.mpr <| List.forall₂_map_right_iff.mpr <|
    List.forall₂_same.mpr alike

theorem writeMember_eq {first second : Text × Json} (name_eq : first.1 = second.1)
    (alike : WrittenAlike first.2 second.2) (layout : Layout) (depth : Nat) :
    writeMember layout depth first = writeMember layout depth second := by
  rcases first with ⟨name, json⟩
  rcases second with ⟨name', other⟩
  obtain rfl : name = name' := name_eq
  rw [writeMember, writeMember, alike layout depth]

theorem writeMembers_eq {members others : List (Text × Json)}
    (alike : MembersWrittenAlike members others) (layout : Layout) (depth : Nat) :
    writeMembers layout depth members = writeMembers layout depth others := by
  induction alike with
  | nil => rfl
  | cons member _ ih => rw [writeMembers, writeMembers, writeMember_eq member.1 member.2, ih]

theorem object {members others : List (Text × Json)}
    (alike : MembersWrittenAlike members others) :
    WrittenAlike (.object members) (.object others) := by
  intro layout depth
  cases alike with
  | nil => rfl
  | cons member rest =>
      rw [writeAt, writeAt, writeMember_eq member.1 member.2, writeMembers_eq rest]

end WrittenAlike

theorem membersWrittenAlike_refl (members : List (Text × Json)) :
    MembersWrittenAlike members members :=
  List.forall₂_same.mpr fun _ _ => ⟨rfl, .refl _⟩

theorem membersWrittenAlike_cons {name : Text} {json other : Json}
    (alike : WrittenAlike json other) {members others : List (Text × Json)}
    (rest : MembersWrittenAlike members others) :
    MembersWrittenAlike (member name json :: members) (member name other :: others) :=
  .cons ⟨rfl, alike⟩ rest

theorem membersWrittenAlike_memberIf {condition : Bool} {name : Text} {json other : Json}
    (alike : WrittenAlike json other) :
    MembersWrittenAlike (memberIf condition name json) (memberIf condition name other) := by
  cases condition with
  | false => exact .nil
  | true => exact membersWrittenAlike_cons alike .nil

end Json

end UsageContracts
