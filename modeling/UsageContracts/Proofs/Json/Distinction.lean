import UsageContracts.Proofs.Json.Halves
import UsageContracts.Proofs.Json.Reading
import UsageContracts.Proofs.Json.Textual

/-!
# What JSON text tells

Values without floating point numbers that are written alike are the same but for code
points whose numbers have more than four hexadecimal digits, which are written like the
two halves of their surrogate pairs.  This holds whatever the layout is.
-/

namespace UsageContracts

/-! ## Strings -/

namespace Json

/-- No part of a string is the beginning of another one that stands for something
else. -/
theorem Piece.append_inj {piece other : Piece} {rest otherRest : Text}
    (same : Text.ofCharacters piece.characters ++ rest =
      Text.ofCharacters other.characters ++ otherRest) :
    piece.point = other.point ∧ rest = otherRest := by
  have letters_eq : ∀ first ∈ escapeLetters, ∀ second ∈ escapeLetters,
      first.1 = second.1 → first.2 = second.2 := by
    decide
  have notNumber : ∀ escape ∈ escapeLetters, escape.1 ≠ 'u' := by
    decide
  cases piece with
  | plain character isPlain =>
      cases other with
      | plain otherCharacter _ => simpa [characters, point] using same
      | letter => exact (isPlain.2.2 (by simpa [characters] using (List.cons.inj same).1)).elim
      | number => exact (isPlain.2.2 (by simpa [characters] using (List.cons.inj same).1)).elim
  | letter escape isEscape =>
      cases other with
      | plain character isPlain =>
          exact (isPlain.2.2 (by simpa [characters] using (List.cons.inj same).1.symm)).elim
      | letter otherEscape isOther =>
          simp only [characters, Text.ofCharacters_cons, Text.ofCharacters_nil, List.cons_append,
            List.nil_append, List.cons.injEq, CodePoint.scalar.injEq, true_and] at same
          exact ⟨congrArg CodePoint.scalar (letters_eq _ isEscape _ isOther same.1), same.2⟩
      | number digits =>
          simp only [characters, Text.ofCharacters_cons, List.cons_append, List.cons.injEq,
            CodePoint.scalar.injEq, true_and] at same
          exact (notNumber _ isEscape same.1).elim
  | number digits point isNumber =>
      cases other with
      | plain character isPlain =>
          exact (isPlain.2.2 (by simpa [characters] using (List.cons.inj same).1.symm)).elim
      | letter escape isEscape =>
          simp only [characters, Text.ofCharacters_cons, List.cons_append, List.cons.injEq,
            CodePoint.scalar.injEq, true_and] at same
          exact (notNumber _ isEscape same.1.symm).elim
      | number otherDigits otherPoint isOther =>
          simp only [characters, Text.ofCharacters_cons, List.cons_append, List.cons.injEq,
            true_and] at same
          have length_eq : (Text.ofCharacters digits).length =
              (Text.ofCharacters otherDigits).length := by
            simp [isNumber.1, isOther.1]
          rcases List.append_inj same length_eq with ⟨digits_eq, rest_eq⟩
          have digits_eq : digits = otherDigits :=
            List.map_injective_iff.mpr (fun _ _ => CodePoint.scalar.inj) digits_eq
          subst digits_eq
          refine ⟨CodePoint.number_injective ?_, rest_eq⟩
          exact Option.some.inj (isNumber.2.symm.trans isOther.2)

/-- No part of a string begins like the end of a string. -/
theorem Piece.append_ne_quotationMark (piece : Piece) (rest otherRest : Text) :
    Text.ofCharacters piece.characters ++ rest ≠ .scalar '"' :: otherRest := by
  intro same
  cases piece with
  | plain character isPlain =>
      exact isPlain.2.1 (by simpa [characters] using (List.cons.inj same).1)
  | letter => cases (List.cons.inj same).1
  | number => cases (List.cons.inj same).1

theorem Pieces.append_inj {pieces others : Pieces} {rest otherRest : Text}
    (same : Text.ofCharacters (pieces.flatMap Piece.characters) ++ .scalar '"' :: rest =
      Text.ofCharacters (others.flatMap Piece.characters) ++ .scalar '"' :: otherRest) :
    pieces.content = others.content := by
  induction pieces generalizing others with
  | nil =>
      cases others with
      | nil => rfl
      | cons other others =>
          rw [List.flatMap_cons, Text.ofCharacters_append, List.append_assoc] at same
          exact (other.append_ne_quotationMark _ _ same.symm).elim
  | cons piece pieces ih =>
      cases others with
      | nil =>
          rw [List.flatMap_cons, Text.ofCharacters_append, List.append_assoc] at same
          exact (piece.append_ne_quotationMark _ _ same).elim
      | cons other others =>
          simp only [List.flatMap_cons, Text.ofCharacters_append, List.append_assoc] at same
          rcases Piece.append_inj same with ⟨point_eq, rest_eq⟩
          have content_eq := ih rest_eq
          simp only [content] at content_eq ⊢
          rw [List.map_cons, List.map_cons, point_eq, content_eq]

/-- A string ends where it ends whatever follows, so that what follows does not
blur for which text it stands. -/
theorem halved_eq_of_quote_append_eq {text other rest otherRest : Text}
    (same : quote text ++ rest = quote other ++ otherRest) : text.halved = other.halved := by
  rcases exists_quote_eq text.halved_isBasic with ⟨pieces, quote_eq, content_eq, -⟩
  rcases exists_quote_eq other.halved_isBasic with ⟨others, otherQuote_eq, otherContent_eq, -⟩
  rw [← quote_halved text, ← quote_halved other, quote_eq, otherQuote_eq] at same
  rw [← content_eq, ← otherContent_eq]
  apply @Pieces.append_inj pieces others rest otherRest
  simpa [Pieces.characters] using same

theorem quote_append_inj {text other rest otherRest : Text}
    (same : quote text ++ rest = quote other ++ otherRest) :
    text.halved = other.halved ∧ rest = otherRest := by
  have halved_eq := halved_eq_of_quote_append_eq same
  rw [← quote_halved text, ← quote_halved other, halved_eq] at same
  exact ⟨halved_eq, List.append_cancel_left same⟩

/-! ## Integers -/

theorem isDigit_of_mem_decimal {number : Nat} {point : CodePoint}
    (member : point ∈ Text.decimal number) : isDigit point = true := by
  rcases List.mem_map.mp member with ⟨digit, inDigits, rfl⟩
  rw [isDigit_scalar]
  exact Nat.isDigit_of_mem_toDigits (by decide) (by decide) inDigits

theorem decimal_append_inj {number other : Nat} {rest otherRest : Text}
    (ends : EndsNumeral rest) (otherEnds : EndsNumeral otherRest)
    (same : Text.decimal number ++ rest = Text.decimal other ++ otherRest) :
    number = other ∧ rest = otherRest := by
  have digits_eq : Text.decimal number = Text.decimal other := by
    rw [← Text.takeWhile_append_of_stop (fun _ => isDigit_of_mem_decimal) ends.isDigit_eq_false,
      same,
      Text.takeWhile_append_of_stop (fun _ => isDigit_of_mem_decimal) otherEnds.isDigit_eq_false]
  have characters_eq : Nat.toDigits 10 number = Nat.toDigits 10 other :=
    List.map_injective_iff.mpr (fun _ _ => CodePoint.scalar.inj) digits_eq
  constructor
  · rw [← @Nat.ofDigitChars_ten_toDigits number, characters_eq, Nat.ofDigitChars_ten_toDigits]
  · rw [digits_eq] at same
    exact List.append_cancel_left same

/-- A numeral begins with a digit. -/
theorem exists_decimal_eq_cons (number : Nat) :
    ∃ first rest, Text.decimal number = first :: rest ∧ isDigit first = true := by
  cases decimal_eq : Text.decimal number with
  | nil => simp [Text.decimal, Text.ofCharacters, Nat.toDigits_ne_nil] at decimal_eq
  | cons first rest =>
      exact ⟨first, rest, rfl, isDigit_of_mem_decimal (decimal_eq ▸ List.mem_cons_self)⟩

theorem decimal_append_ne_minus (number : Nat) (rest otherRest : Text) :
    Text.decimal number ++ rest ≠ .scalar '-' :: otherRest := by
  intro same
  obtain ⟨first, digits, decimal_eq, digit⟩ := exists_decimal_eq_cons number
  rw [decimal_eq] at same
  cases (List.cons.inj same).1
  exact absurd digit (by decide)

theorem signedDecimal_append_inj {number other : Int} {rest otherRest : Text}
    (ends : EndsNumeral rest) (otherEnds : EndsNumeral otherRest)
    (same : Text.signedDecimal number ++ rest = Text.signedDecimal other ++ otherRest) :
    number = other ∧ rest = otherRest := by
  cases number with
  | ofNat number =>
      cases other with
      | ofNat other =>
          obtain ⟨rfl, rest_eq⟩ := decimal_append_inj ends otherEnds same
          exact ⟨rfl, rest_eq⟩
      | negSucc other => exact (decimal_append_ne_minus _ _ _ same).elim
  | negSucc number =>
      cases other with
      | ofNat other => exact (decimal_append_ne_minus _ _ _ same.symm).elim
      | negSucc other =>
          obtain ⟨number_eq, rest_eq⟩ := decimal_append_inj ends otherEnds (List.cons.inj same).2
          cases number_eq
          exact ⟨rfl, rest_eq⟩

/-! ## Kinds of values -/

/-- The kinds of values without floating point numbers. -/
inductive Kind
  | null
  | bool
  | integer
  | text
  | list
  | object
deriving DecidableEq

/-- The kind of a value that begins with a code point. -/
def kindFrom? (first : CodePoint) : Option Kind :=
  if first = '"' then some .text
  else if first = '[' then some .list
  else if first = '\x7b' then some .object
  else if first = 'n' then some .null
  else if first = 't' ∨ first = 'f' then some .bool
  else if first = '-' ∨ isDigit first then some .integer
  else none

/-- The kind of a value. -/
def kind? : Json → Option Kind
  | .null => some .null
  | .bool _ => some .bool
  | .integer _ => some .integer
  | .float _ => none
  | .text _ => some .text
  | .list _ => some .list
  | .object _ => some .object

theorem kindFrom?_digit {first : CodePoint} (digit : isDigit first = true) :
    kindFrom? first = some .integer := by
  have ne_of_noDigit {other : Char} (noDigit : isDigit other = false) : first ≠ .scalar other := by
    rintro rfl
    cases digit.symm.trans noDigit
  rw [kindFrom?, if_neg (ne_of_noDigit (by decide)), if_neg (ne_of_noDigit (by decide)),
    if_neg (ne_of_noDigit (by decide)), if_neg (ne_of_noDigit (by decide)),
    if_neg (not_or.mpr ⟨ne_of_noDigit (by decide), ne_of_noDigit (by decide)⟩),
    if_pos (.inr digit)]

/-- The kind of a value can be told from its first code point. -/
theorem exists_writeAt_eq_cons (layout : Layout) (depth : Nat) {json : Json} {kind : Kind}
    (kind_eq : json.kind? = some kind) :
    ∃ first rest, writeAt layout depth json = first :: rest ∧ kindFrom? first = some kind := by
  cases json with
  | null =>
      cases kind_eq
      exact ⟨'n', "ull", rfl, rfl⟩
  | bool value =>
      cases kind_eq
      cases value with
      | true => exact ⟨'t', "rue", rfl, rfl⟩
      | false => exact ⟨'f', "alse", rfl, rfl⟩
  | integer value =>
      cases kind_eq
      cases value with
      | ofNat number =>
          obtain ⟨first, rest, decimal_eq, digit⟩ := exists_decimal_eq_cons number
          exact ⟨first, rest, decimal_eq, kindFrom?_digit digit⟩
      | negSucc number => exact ⟨'-', _, rfl, rfl⟩
  | float value => cases kind_eq
  | text content =>
      cases kind_eq
      exact ⟨'"', _, rfl, rfl⟩
  | list items =>
      cases kind_eq
      cases items <;> exact ⟨'[', _, rfl, rfl⟩
  | object members =>
      cases kind_eq
      cases members <;> exact ⟨'\x7b', _, rfl, rfl⟩

/-! ## Values -/

mutual

/-- Whether there is no floating point number in a JSON value. -/
def IsFloatless : Json → Prop
  | .float _ => False
  | .list items => AreFloatless items
  | .object members => MembersAreFloatless members
  | _ => True
termination_by structural json => json

/-- Whether there is no floating point number in the items of a list. -/
def AreFloatless : List Json → Prop
  | [] => True
  | item :: items => IsFloatless item ∧ AreFloatless items
termination_by structural items => items

/-- Whether there is no floating point number in the members of an object. -/
def MembersAreFloatless : List (Text × Json) → Prop
  | [] => True
  | member :: members => MemberIsFloatless member ∧ MembersAreFloatless members
termination_by structural members => members

/-- Whether there is no floating point number in a member of an object. -/
def MemberIsFloatless : Text × Json → Prop
  | (_, json) => IsFloatless json
termination_by structural member => member

end

mutual

/-- A JSON value with the halves of its code points. -/
def halved : Json → Json
  | .text content => .text content.halved
  | .list items => .list (itemsHalved items)
  | .object members => .object (membersHalved members)
  | json => json
termination_by structural json => json

/-- The items of a list with the halves of their code points. -/
def itemsHalved : List Json → List Json
  | [] => []
  | item :: items => halved item :: itemsHalved items
termination_by structural items => items

/-- The members of an object with the halves of their code points. -/
def membersHalved : List (Text × Json) → List (Text × Json)
  | [] => []
  | member :: members => memberHalved member :: membersHalved members
termination_by structural members => members

/-- A member of an object with the halves of its code points. -/
def memberHalved : Text × Json → Text × Json
  | (name, json) => (name.halved, halved json)
termination_by structural member => member

end

theorem IsFloatless.exists_kind?_eq {json : Json} (floatless : json.IsFloatless) :
    ∃ kind, json.kind? = some kind := by
  cases json with
  | float value => exact floatless.elim
  | _ => exact ⟨_, rfl⟩

/-- Values that are followed by anything are of one kind if they are written alike. -/
theorem kind?_eq_of_writeAt_append_eq {layout : Layout} {depth : Nat} {json other : Json}
    (floatless : json.IsFloatless) (otherFloatless : other.IsFloatless) {rest otherRest : Text}
    (same : writeAt layout depth json ++ rest = writeAt layout depth other ++ otherRest) :
    json.kind? = other.kind? := by
  obtain ⟨kind, kind_eq⟩ := floatless.exists_kind?_eq
  obtain ⟨otherKind, otherKind_eq⟩ := otherFloatless.exists_kind?_eq
  obtain ⟨first, _, write_eq, first_eq⟩ := exists_writeAt_eq_cons layout depth kind_eq
  obtain ⟨otherFirst, _, otherWrite_eq, otherFirst_eq⟩ :=
    exists_writeAt_eq_cons layout depth otherKind_eq
  rw [write_eq, otherWrite_eq] at same
  obtain rfl := (List.cons.inj same).1
  rw [kind_eq, otherKind_eq, ← first_eq, otherFirst_eq]

/-- Whether a text goes on after the last part of a collection. -/
structure EndsParts (close : Text) : Prop where
  notComma : ∀ rest, close ≠ .scalar ',' :: rest
  endsValue : EndsValue close

theorem endsParts_lineBreak (layout : Layout) (depth : Nat) {bracket : Char}
    (isBracket : bracket = ']' ∨ bracket = '\x7d') (rest : Text) :
    EndsParts (layout.lineBreak depth ++ .scalar bracket :: rest) := by
  cases layout with
  | compact =>
      rcases isBracket with rfl | rfl
      · exact ⟨by simp [Layout.lineBreak], by simp [Layout.lineBreak, EndsValue]⟩
      · exact ⟨by simp [Layout.lineBreak], by simp [Layout.lineBreak, EndsValue]⟩
  | broken unit =>
      exact ⟨by simp [Layout.lineBreak], by simp [Layout.lineBreak, EndsValue]; decide⟩

theorem exists_separator_eq_cons (layout : Layout) (depth : Nat) :
    ∃ rest, layout.separator depth = .scalar ',' :: rest := by
  cases layout <;> exact ⟨_, rfl⟩

section

variable {layout : Layout} {depth : Nat} {close : Text}

theorem EndsParts.ne_separator_append (ends : EndsParts close) (rest : Text) :
    close ≠ layout.separator depth ++ rest := by
  obtain ⟨_, separator_eq⟩ := exists_separator_eq_cons layout depth
  rw [separator_eq]
  exact ends.notComma _

theorem EndsParts.writeItems (ends : EndsParts close) (items : List Json) :
    EndsValue (Json.writeItems layout depth items ++ close) := by
  cases items with
  | nil => exact ends.endsValue
  | cons item items =>
      obtain ⟨rest, separator_eq⟩ := exists_separator_eq_cons layout depth
      simp [Json.writeItems, separator_eq, EndsValue]

theorem EndsParts.writeMembers (ends : EndsParts close) (members : List (Text × Json)) :
    EndsValue (Json.writeMembers layout depth members ++ close) := by
  cases members with
  | nil => exact ends.endsValue
  | cons member members =>
      obtain ⟨rest, separator_eq⟩ := exists_separator_eq_cons layout depth
      simp [Json.writeMembers, separator_eq, EndsValue]

end

theorem writeAt_list_append (layout : Layout) (depth : Nat) (item : Json) (items : List Json)
    (rest : Text) :
    writeAt layout depth (.list (item :: items)) ++ rest =
      .scalar '[' :: (layout.lineBreak (depth + 1) ++ (writeAt layout (depth + 1) item ++
        (writeItems layout (depth + 1) items ++
          (layout.lineBreak depth ++ .scalar ']' :: rest)))) := by
  simp [writeAt]

theorem writeAt_object_append (layout : Layout) (depth : Nat) (member : Text × Json)
    (members : List (Text × Json)) (rest : Text) :
    writeAt layout depth (.object (member :: members)) ++ rest =
      .scalar '\x7b' :: (layout.lineBreak (depth + 1) ++ (writeMember layout (depth + 1) member ++
        (writeMembers layout (depth + 1) members ++
          (layout.lineBreak depth ++ .scalar '\x7d' :: rest)))) := by
  simp [writeAt]

/-- No item begins like the end of a list. -/
theorem writeAt_list_append_ne {layout : Layout} {depth : Nat} {item : Json} {items : List Json}
    (floatless : item.IsFloatless) (rest otherRest : Text) :
    writeAt layout depth (.list (item :: items)) ++ rest ≠
      writeAt layout depth (.list []) ++ otherRest := by
  rw [writeAt_list_append]
  intro same
  have same := (List.cons.inj same).2
  cases layout with
  | broken unit => cases (List.cons.inj same).1
  | compact =>
      obtain ⟨kind, kind_eq⟩ := floatless.exists_kind?_eq
      obtain ⟨first, _, write_eq, first_eq⟩ := exists_writeAt_eq_cons .compact (depth + 1) kind_eq
      rw [write_eq] at same
      cases (List.cons.inj same).1
      cases first_eq

/-- No member begins like the end of an object. -/
theorem writeAt_object_append_ne {layout : Layout} {depth : Nat} {member : Text × Json}
    {members : List (Text × Json)} (rest otherRest : Text) :
    writeAt layout depth (.object (member :: members)) ++ rest ≠
      writeAt layout depth (.object []) ++ otherRest := by
  rw [writeAt_object_append]
  intro same
  have same : _ = CodePoint.scalar '\x7d' :: otherRest := (List.cons.inj same).2
  cases layout with
  | broken unit => cases (List.cons.inj same).1
  | compact =>
      rcases member with ⟨name, json⟩
      simp only [writeMember, quote, Layout.lineBreak, List.nil_append, List.cons_append] at same
      cases (List.cons.inj same).1

mutual

/-- Values that are written alike, whatever follows them, are the same up to halves, and so is
what follows. -/
theorem halved_eq_of_writeAt_append_eq (layout : Layout) : ∀ (depth : Nat) (json : Json),
    json.IsFloatless → ∀ other : Json, other.IsFloatless → ∀ {rest otherRest : Text},
    EndsValue rest → EndsValue otherRest →
    writeAt layout depth json ++ rest = writeAt layout depth other ++ otherRest →
    json.halved = other.halved ∧ rest = otherRest
  | _, .null, floatless, other, otherFloatless, _, _, _, _, same => by
      have kind_eq := kind?_eq_of_writeAt_append_eq floatless otherFloatless same
      cases other with
      | null => exact ⟨rfl, List.append_cancel_left same⟩
      | _ => cases kind_eq
  | _, .bool value, floatless, other, otherFloatless, _, _, _, _, same => by
      have kind_eq := kind?_eq_of_writeAt_append_eq floatless otherFloatless same
      cases other with
      | bool otherValue =>
          cases value <;> cases otherValue
          · exact ⟨rfl, List.append_cancel_left same⟩
          · cases (List.cons.inj same).1
          · cases (List.cons.inj same).1
          · exact ⟨rfl, List.append_cancel_left same⟩
      | _ => cases kind_eq
  | _, .integer number, floatless, other, otherFloatless, _, _, ends, otherEnds, same => by
      have kind_eq := kind?_eq_of_writeAt_append_eq floatless otherFloatless same
      cases other with
      | integer otherNumber =>
          obtain ⟨rfl, rest_eq⟩ :=
            signedDecimal_append_inj ends.endsNumeral otherEnds.endsNumeral same
          exact ⟨rfl, rest_eq⟩
      | _ => cases kind_eq
  | _, .float _, floatless, _, _, _, _, _, _, _ => floatless.elim
  | _, .text content, floatless, other, otherFloatless, _, _, _, _, same => by
      have kind_eq := kind?_eq_of_writeAt_append_eq floatless otherFloatless same
      cases other with
      | text otherContent =>
          obtain ⟨content_eq, rest_eq⟩ := quote_append_inj same
          exact ⟨congrArg Json.text content_eq, rest_eq⟩
      | _ => cases kind_eq
  | _, .list [], floatless, other, otherFloatless, _, _, _, _, same => by
      have kind_eq := kind?_eq_of_writeAt_append_eq floatless otherFloatless same
      cases other with
      | list others =>
          cases others with
          | nil => exact ⟨rfl, List.append_cancel_left same⟩
          | cons other others => exact (writeAt_list_append_ne otherFloatless.1 _ _ same.symm).elim
      | _ => cases kind_eq
  | depth, .list (item :: items), floatless, other, otherFloatless, rest, otherRest, _, _,
      same => by
      have kind_eq := kind?_eq_of_writeAt_append_eq floatless otherFloatless same
      cases other with
      | list others =>
          cases others with
          | nil => exact (writeAt_list_append_ne floatless.1 _ _ same).elim
          | cons other others =>
              rw [writeAt_list_append, writeAt_list_append] at same
              have close := endsParts_lineBreak layout depth (.inl rfl) rest
              have otherClose := endsParts_lineBreak layout depth (.inl rfl) otherRest
              obtain ⟨item_eq, same⟩ := halved_eq_of_writeAt_append_eq layout (depth + 1) item
                floatless.1 other otherFloatless.1 (close.writeItems items)
                (otherClose.writeItems others) (List.append_cancel_left (List.cons.inj same).2)
              obtain ⟨items_eq, same⟩ := itemsHalved_eq_of_writeItems_append_eq layout (depth + 1)
                items floatless.2 others otherFloatless.2 close otherClose same
              refine ⟨?_, (List.cons.inj (List.append_cancel_left same)).2⟩
              rw [halved, halved, itemsHalved, itemsHalved, item_eq, items_eq]
      | _ => cases kind_eq
  | _, .object [], floatless, other, otherFloatless, _, _, _, _, same => by
      have kind_eq := kind?_eq_of_writeAt_append_eq floatless otherFloatless same
      cases other with
      | object others =>
          cases others with
          | nil => exact ⟨rfl, List.append_cancel_left same⟩
          | cons other others => exact (writeAt_object_append_ne _ _ same.symm).elim
      | _ => cases kind_eq
  | depth, .object (member :: members), floatless, other, otherFloatless, rest, otherRest, _, _,
      same => by
      have kind_eq := kind?_eq_of_writeAt_append_eq floatless otherFloatless same
      cases other with
      | object others =>
          cases others with
          | nil => exact (writeAt_object_append_ne _ _ same).elim
          | cons other others =>
              rw [writeAt_object_append, writeAt_object_append] at same
              have close := endsParts_lineBreak layout depth (.inr rfl) rest
              have otherClose := endsParts_lineBreak layout depth (.inr rfl) otherRest
              obtain ⟨member_eq, same⟩ := memberHalved_eq_of_writeMember_append_eq layout
                (depth + 1) member floatless.1 other otherFloatless.1 (close.writeMembers members)
                (otherClose.writeMembers others) (List.append_cancel_left (List.cons.inj same).2)
              obtain ⟨members_eq, same⟩ := membersHalved_eq_of_writeMembers_append_eq layout
                (depth + 1) members floatless.2 others otherFloatless.2 close otherClose same
              refine ⟨?_, (List.cons.inj (List.append_cancel_left same)).2⟩
              rw [halved, halved, membersHalved, membersHalved, member_eq, members_eq]
      | _ => cases kind_eq
termination_by structural _ json => json

theorem itemsHalved_eq_of_writeItems_append_eq (layout : Layout) : ∀ (depth : Nat)
    (items : List Json), AreFloatless items → ∀ others : List Json, AreFloatless others →
    ∀ {close otherClose : Text}, EndsParts close → EndsParts otherClose →
    writeItems layout depth items ++ close = writeItems layout depth others ++ otherClose →
    itemsHalved items = itemsHalved others ∧ close = otherClose
  | _, [], _, [], _, _, _, _, _, same => ⟨rfl, same⟩
  | _, [], _, other :: others, _, _, _, close, _, same => by
      simp only [writeItems, List.append_assoc, List.nil_append] at same
      exact (close.ne_separator_append _ same).elim
  | _, item :: items, _, [], _, _, _, _, otherClose, same => by
      simp only [writeItems, List.append_assoc, List.nil_append] at same
      exact (otherClose.ne_separator_append _ same.symm).elim
  | depth, item :: items, floatless, other :: others, otherFloatless, _, _, close, otherClose,
      same => by
      simp only [writeItems, List.append_assoc] at same
      obtain ⟨item_eq, same⟩ := halved_eq_of_writeAt_append_eq layout depth item floatless.1 other
        otherFloatless.1 (close.writeItems items) (otherClose.writeItems others)
        (List.append_cancel_left same)
      obtain ⟨items_eq, close_eq⟩ := itemsHalved_eq_of_writeItems_append_eq layout depth items
        floatless.2 others otherFloatless.2 close otherClose same
      exact ⟨by rw [itemsHalved, itemsHalved, item_eq, items_eq], close_eq⟩
termination_by structural _ items => items

theorem membersHalved_eq_of_writeMembers_append_eq (layout : Layout) : ∀ (depth : Nat)
    (members : List (Text × Json)), MembersAreFloatless members →
    ∀ others : List (Text × Json), MembersAreFloatless others →
    ∀ {close otherClose : Text}, EndsParts close → EndsParts otherClose →
    writeMembers layout depth members ++ close = writeMembers layout depth others ++ otherClose →
    membersHalved members = membersHalved others ∧ close = otherClose
  | _, [], _, [], _, _, _, _, _, same => ⟨rfl, same⟩
  | _, [], _, other :: others, _, _, _, close, _, same => by
      simp only [writeMembers, List.append_assoc, List.nil_append] at same
      exact (close.ne_separator_append _ same).elim
  | _, member :: members, _, [], _, _, _, _, otherClose, same => by
      simp only [writeMembers, List.append_assoc, List.nil_append] at same
      exact (otherClose.ne_separator_append _ same.symm).elim
  | depth, member :: members, floatless, other :: others, otherFloatless, _, _, close, otherClose,
      same => by
      simp only [writeMembers, List.append_assoc] at same
      obtain ⟨member_eq, same⟩ := memberHalved_eq_of_writeMember_append_eq layout depth member
        floatless.1 other otherFloatless.1 (close.writeMembers members)
        (otherClose.writeMembers others) (List.append_cancel_left same)
      obtain ⟨members_eq, close_eq⟩ := membersHalved_eq_of_writeMembers_append_eq layout depth
        members floatless.2 others otherFloatless.2 close otherClose same
      exact ⟨by rw [membersHalved, membersHalved, member_eq, members_eq], close_eq⟩
termination_by structural _ members => members

theorem memberHalved_eq_of_writeMember_append_eq (layout : Layout) : ∀ (depth : Nat)
    (member : Text × Json), MemberIsFloatless member → ∀ other : Text × Json,
    MemberIsFloatless other → ∀ {rest otherRest : Text}, EndsValue rest → EndsValue otherRest →
    writeMember layout depth member ++ rest = writeMember layout depth other ++ otherRest →
    memberHalved member = memberHalved other ∧ rest = otherRest
  | depth, (name, json), floatless, (otherName, other), otherFloatless, _, _, ends, otherEnds,
      same => by
      simp only [writeMember, List.append_assoc] at same
      obtain ⟨name_eq, same⟩ := quote_append_inj same
      obtain ⟨json_eq, rest_eq⟩ := halved_eq_of_writeAt_append_eq layout depth json floatless other
        otherFloatless ends otherEnds (List.append_cancel_left same)
      exact ⟨by rw [memberHalved, memberHalved, name_eq, json_eq], rest_eq⟩
termination_by structural _ member => member

end

mutual

/-- A value is written like its halves. -/
theorem writeAt_halved (layout : Layout) : ∀ (depth : Nat) (json : Json),
    writeAt layout depth json.halved = writeAt layout depth json
  | _, .null | _, .bool _ | _, .integer _ | _, .float _ => rfl
  | _, .text content => quote_halved content
  | _, .list [] | _, .object [] => rfl
  | depth, .list (item :: items) => by
      rw [halved, itemsHalved, writeAt, writeAt, writeAt_halved layout (depth + 1) item,
        writeItems_halved layout (depth + 1) items]
  | depth, .object (member :: members) => by
      rw [halved, membersHalved, writeAt, writeAt, writeMember_halved layout (depth + 1) member,
        writeMembers_halved layout (depth + 1) members]
termination_by structural _ json => json

theorem writeItems_halved (layout : Layout) : ∀ (depth : Nat) (items : List Json),
    writeItems layout depth (itemsHalved items) = writeItems layout depth items
  | _, [] => rfl
  | depth, item :: items => by
      rw [itemsHalved, writeItems, writeItems, writeAt_halved layout depth item,
        writeItems_halved layout depth items]
termination_by structural _ items => items

theorem writeMembers_halved (layout : Layout) : ∀ (depth : Nat) (members : List (Text × Json)),
    writeMembers layout depth (membersHalved members) = writeMembers layout depth members
  | _, [] => rfl
  | depth, member :: members => by
      rw [membersHalved, writeMembers, writeMembers, writeMember_halved layout depth member,
        writeMembers_halved layout depth members]
termination_by structural _ members => members

theorem writeMember_halved (layout : Layout) : ∀ (depth : Nat) (member : Text × Json),
    writeMember layout depth (memberHalved member) = writeMember layout depth member
  | depth, (name, json) => by
      rw [memberHalved, writeMember, writeMember, quote_halved, writeAt_halved layout depth json]
termination_by structural _ member => member

end

/-- Values without floating point numbers have the same text exactly if they are the same
with the halves of their code points. -/
theorem write_eq_iff {layout : Layout} {json other : Json} (floatless : json.IsFloatless)
    (otherFloatless : other.IsFloatless) :
    json.write layout = other.write layout ↔ json.halved = other.halved := by
  constructor
  · intro same
    have atEnd : EndsValue [] := by
      simp [EndsValue]
    exact (halved_eq_of_writeAt_append_eq layout 0 json floatless other otherFloatless atEnd atEnd
      (congrArg (· ++ []) same)).1
  · intro same
    rw [write, write, ← writeAt_halved layout 0 json, ← writeAt_halved layout 0 other, same]

/-! ### Documents -/

theorem itemsHalved_eq_map (items : List Json) : itemsHalved items = items.map halved := by
  induction items with
  | nil => rfl
  | cons item items ih => rw [itemsHalved, ih, List.map_cons]

theorem membersHalved_append (first second : List (Text × Json)) :
    membersHalved (first ++ second) = membersHalved first ++ membersHalved second := by
  induction first with
  | nil => rfl
  | cons member members ih =>
      rw [List.cons_append, membersHalved, ih, membersHalved, List.cons_append]

theorem membersHalved_memberIf (condition : Bool) (name : Text) (json : Json) :
    membersHalved (memberIf condition name json) = memberIf condition name.halved json.halved := by
  cases condition <;> rfl

theorem areFloatless_map {α : Type} {write : α → Json} (items : List α)
    (floatless : ∀ item, (write item).IsFloatless) : AreFloatless (items.map write) := by
  induction items with
  | nil => trivial
  | cons item items ih => exact ⟨floatless item, ih⟩

theorem membersAreFloatless_append {first second : List (Text × Json)}
    (firstFloatless : MembersAreFloatless first) (secondFloatless : MembersAreFloatless second) :
    MembersAreFloatless (first ++ second) := by
  induction first with
  | nil => exact secondFloatless
  | cons member members ih => exact ⟨firstFloatless.1, ih firstFloatless.2⟩

theorem membersAreFloatless_memberIf {condition : Bool} {name : Text} {json : Json}
    (floatless : json.IsFloatless) : MembersAreFloatless (memberIf condition name json) := by
  cases condition with
  | false => trivial
  | true => exact ⟨floatless, trivial⟩

end Json

end UsageContracts
