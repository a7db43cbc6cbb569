import UsageContracts.Json.Indent
import UsageContracts.Proofs.Yaml.Portable

/-!
# Textual documents

JSON documents that are made of texts, lists and objects only, as those of
contracts are.  They are written as portable texts.
-/

namespace UsageContracts

namespace Json

/-- Whether a text can be the name of a member of a textual document: it is basic
and, as a string, short enough for a key of YAML. -/
def IsName (name : Text) : Prop :=
  name.IsBasic ∧ (Text.scalars (quote name)).length ≤ Yaml.longestKey

instance (name : Text) : Decidable (IsName name) :=
  inferInstanceAs (Decidable (_ ∧ _))

mutual

/-- Whether a document is made of basic texts, lists and objects, each of which
has members with different names. -/
def IsTextual : Json → Prop
  | .text content => content.IsBasic
  | .list items => AreTextual items
  | .object members => (members.map (·.1)).Nodup ∧ MembersAreTextual members
  | _ => False
termination_by structural json => json

/-- Whether the items of a list are textual. -/
def AreTextual : List Json → Prop
  | [] => True
  | item :: items => IsTextual item ∧ AreTextual items
termination_by structural items => items

/-- Whether the members of an object are textual. -/
def MembersAreTextual : List (Text × Json) → Prop
  | [] => True
  | member :: members => MemberIsTextual member ∧ MembersAreTextual members
termination_by structural members => members

/-- Whether a member of an object is textual. -/
def MemberIsTextual : Text × Json → Prop
  | (name, json) => IsName name ∧ IsTextual json
termination_by structural member => member

end

theorem areTextual_map {α : Type} {write : α → Json} {items : List α}
    (textual : ∀ item ∈ items, (write item).IsTextual) : AreTextual (items.map write) := by
  induction items with
  | nil => trivial
  | cons item items ih =>
      exact ⟨textual item (by simp), ih fun other member => textual other (by simp [member])⟩

theorem membersAreTextual_cons {name : Text} {json : Json} {members : List (Text × Json)}
    (isName : IsName name) (textual : json.IsTextual) (rest : MembersAreTextual members) :
    MembersAreTextual (member name json :: members) :=
  ⟨⟨isName, textual⟩, rest⟩

theorem membersAreTextual_append {first second : List (Text × Json)}
    (firstTextual : MembersAreTextual first) (secondTextual : MembersAreTextual second) :
    MembersAreTextual (first ++ second) := by
  induction first with
  | nil => exact secondTextual
  | cons member members ih => exact ⟨firstTextual.1, ih firstTextual.2⟩

theorem membersAreTextual_memberIf {condition : Bool} {name : Text} {json : Json}
    (isName : IsName name) (textual : json.IsTextual) :
    MembersAreTextual (memberIf condition name json) := by
  cases condition with
  | false => trivial
  | true => exact membersAreTextual_cons isName textual trivial

theorem names_memberIf_sublist (condition : Bool) (name : Text) (json : Json) :
    ((memberIf condition name json).map (·.1)).Sublist [name] := by
  cases condition with
  | false => exact List.nil_sublist _
  | true => exact List.Sublist.refl _

/-! ## Strings -/

theorem exists_numberEscape_eq {point : CodePoint} (basic : point.number < 0x10000) :
    ∃ piece : Piece, numberEscape point.number = .ofCharacters piece.characters ∧
      piece.point = point ∧ Yaml.IsOnLine piece := by
  have short : point.number < 16 ^ 4 := basic
  rcases Text.exists_hexadecimal_eq (by decide) short with
    ⟨digits, digits_eq, length_eq, number_eq⟩
  refine ⟨.number digits point ⟨length_eq, number_eq⟩, ?_, rfl, trivial⟩
  rw [numberEscape, digits_eq]
  rfl

/-- Every code point is written as a part of a string that stands for it. -/
theorem exists_escapePoint_eq {point : CodePoint} (basic : point.number < 0x10000) :
    ∃ piece : Piece, escapePoint point = .ofCharacters piece.characters ∧
      piece.point = point ∧ Yaml.IsOnLine piece := by
  have letter {escape : Char × Char} (isEscape : escape ∈ escapeLetters)
      (point_eq : point = .scalar escape.2) :
      ∃ piece : Piece, Text.ofCharacters ['\\', escape.1] = .ofCharacters piece.characters ∧
        piece.point = point ∧ Yaml.IsOnLine piece :=
    ⟨.letter escape isEscape, rfl, point_eq.symm, trivial⟩
  unfold escapePoint
  split
  · next point_eq => exact @letter ('"', '"') (by decide) point_eq
  split
  · next point_eq => exact @letter ('\\', '\\') (by decide) point_eq
  split
  · next point_eq => exact @letter ('n', '\n') (by decide) point_eq
  split
  · next point_eq => exact @letter ('r', '\r') (by decide) point_eq
  split
  · next point_eq => exact @letter ('t', '\t') (by decide) point_eq
  split
  · next point_eq => exact @letter ('b', '\x08') (by decide) point_eq
  split
  · next point_eq => exact @letter ('f', '\x0C') (by decide) point_eq
  split
  · next printable =>
      cases point with
      | scalar character =>
          have isPlain : ' ' ≤ character ∧ character ≠ '"' ∧ character ≠ '\\' := by
            refine ⟨printable.1, ?_, ?_⟩ <;> (rintro rfl; contradiction)
          exact ⟨.plain character isPlain, rfl, rfl, Yaml.isOnLine_printable isPlain printable.2⟩
      | surrogate half =>
          simp only [CodePoint.number] at printable
          omega
  exact exists_numberEscape_eq basic

/-- A basic text is written as a string that stands for it. -/
theorem exists_quote_eq {text : Text} (basic : text.IsBasic) :
    ∃ pieces : Pieces, quote text = .ofCharacters pieces.characters ∧ pieces.content = text ∧
      ∀ piece ∈ pieces, Yaml.IsOnLine piece := by
  have escapes : ∃ pieces : Pieces,
      text.flatMap escapePoint = Text.ofCharacters (pieces.flatMap Piece.characters) ∧
        pieces.content = text ∧ ∀ piece ∈ pieces, Yaml.IsOnLine piece := by
    induction text with
    | nil => exact ⟨[], rfl, rfl, List.forall_mem_nil _⟩
    | cons point text ih =>
        rcases exists_escapePoint_eq (basic point List.mem_cons_self) with
          ⟨piece, escape_eq, point_eq, onLine⟩
        rcases ih fun other member => basic other (List.mem_cons_of_mem _ member) with
          ⟨pieces, escapes_eq, content_eq, areOnLine⟩
        refine ⟨piece :: pieces, ?_, ?_, List.forall_mem_cons.mpr ⟨onLine, areOnLine⟩⟩
        · rw [List.flatMap_cons, List.flatMap_cons, escape_eq, escapes_eq,
            Text.ofCharacters_append]
        · rw [Pieces.content, List.map_cons, point_eq, ← Pieces.content, content_eq]
  rcases escapes with ⟨pieces, escapes_eq, content_eq, areOnLine⟩
  refine ⟨pieces, ?_, content_eq, areOnLine⟩
  rw [quote, escapes_eq]
  simp [Pieces.characters]

end Json

/-! ## Layouts -/

namespace Layout

open Json (Blank Spacing)

/-- Whether a layout uses nothing but spaces and line ends. -/
def IsSpaced : Layout → Prop
  | .compact => True
  | .broken unit => ∀ point ∈ unit, point = ' '

theorem ofSpaces_isSpaced (spaces : Int) : (ofSpaces spaces).IsSpaced := by
  intro point member
  exact List.eq_of_mem_replicate member

variable {layout : Layout}

/-- The beginning of a line is white space without tabs. -/
theorem exists_lineBreak_eq (spaced : layout.IsSpaced) (depth : Nat) :
    ∃ spacing : Spacing, layout.lineBreak depth = .ofCharacters spacing.characters ∧
      .tab ∉ spacing := by
  cases layout with
  | compact => exact ⟨[], rfl, nofun⟩
  | broken unit =>
      have indent_eq : (List.replicate depth unit).flatten =
          List.replicate (depth * unit.length) (.scalar ' ') := by
        rw [List.eq_replicate_iff]
        refine ⟨by simp, fun point member => ?_⟩
        rcases List.mem_flatten.mp member with ⟨part, inParts, inPart⟩
        obtain rfl := List.eq_of_mem_replicate inParts
        exact spaced point inPart
      refine ⟨.lineFeed :: List.replicate (depth * unit.length) .space, ?_, ?_⟩
      · simp [lineBreak, indent_eq, Spacing.characters, Blank.character, Text.ofCharacters]
      · simp

/-- A separator is a comma before white space without tabs. -/
theorem exists_separator_eq (spaced : layout.IsSpaced) (depth : Nat) :
    ∃ spacing : Spacing, layout.separator depth = .ofCharacters (',' :: spacing.characters) ∧
      .tab ∉ spacing := by
  cases layout with
  | compact => exact ⟨[.space], rfl, by decide⟩
  | broken unit =>
      rcases exists_lineBreak_eq spaced depth with ⟨spacing, break_eq, noTab⟩
      refine ⟨spacing, ?_, noTab⟩
      rw [separator, break_eq]
      rfl

end Layout

/-! ## Documents -/

namespace Json

variable {layout : Layout}

mutual

/-- A textual document is written as a portable text. -/
theorem exists_writeAt_eq (spaced : layout.IsSpaced) : ∀ (depth : Nat) (json : Json),
    json.IsTextual → ∃ source : Source, writeAt layout depth json = source.text ∧
      source.json = json ∧ source.IsPortable
  | _, .text content, textual => by
      rcases exists_quote_eq textual with ⟨pieces, quote_eq, content_eq, onLine⟩
      exact ⟨.string pieces, quote_eq, congrArg Json.text content_eq, onLine⟩
  | _, .list [], _ => ⟨.emptyList [], rfl, rfl, nofun⟩
  | depth, .list (item :: items), textual => by
      rcases layout.exists_lineBreak_eq spaced (depth + 1) with ⟨before, before_eq, noTabBefore⟩
      rcases layout.exists_lineBreak_eq spaced depth with ⟨close, close_eq, noTabClose⟩
      rcases exists_writeAt_eq spaced (depth + 1) item textual.1 with
        ⟨value, value_eq, json_eq, isPortable⟩
      rcases exists_writeItems_eq spaced (depth + 1) items textual.2 noTabClose with
        ⟨after, others, others_eq, jsons_eq, arePortable, noTabAfter⟩
      refine ⟨.list (.spaced before value after) others, ?_, ?_,
        ⟨noTabBefore, isPortable, noTabAfter⟩, arePortable⟩
      · rw [writeAt, before_eq, value_eq, List.append_assoc _ (writeItems _ _ _), close_eq,
          others_eq]
        simp [Source.text, Source.characters]
      · rw [Source.json, Source.json, json_eq, jsons_eq]
  | _, .object [], _ => ⟨.emptyObject [], rfl, rfl, nofun⟩
  | depth, .object (member :: members), textual => by
      rcases layout.exists_lineBreak_eq spaced (depth + 1) with ⟨before, before_eq, noTabBefore⟩
      rcases layout.exists_lineBreak_eq spaced depth with ⟨close, close_eq, noTabClose⟩
      rcases exists_writeMembers_eq spaced (depth + 1) members textual.2.2 noTabClose with
        ⟨after, others, others_eq, jsons_eq, arePortable, noTabAfter⟩
      rcases exists_writeMember_eq spaced (depth + 1) member textual.2.1 noTabBefore noTabAfter
        with ⟨first, first_eq, json_eq, isPortable⟩
      refine ⟨.object first others, ?_, ?_, ?_, isPortable, arePortable⟩
      · rw [writeAt, before_eq, List.append_assoc _ (writeMembers _ _ _), close_eq, others_eq]
        simp [Source.text, Source.characters, ← first_eq]
      · rw [Source.json, json_eq, jsons_eq]
      · rw [json_eq, jsons_eq]
        exact textual.1
termination_by structural _ json => json

/-- The further items of a textual list are written as those of a portable text,
after white space that is left to the item ahead. -/
theorem exists_writeItems_eq (spaced : layout.IsSpaced) : ∀ (depth : Nat) (items : List Json),
    AreTextual items → ∀ {close : Spacing}, .tab ∉ close →
    ∃ (after : Spacing) (others : List Source),
      writeItems layout depth items ++ .ofCharacters close.characters =
        .ofCharacters (after.characters ++ Source.itemCharacters others) ∧
      Source.itemJsons others = items ∧ Source.ItemsObey portable others ∧ .tab ∉ after
  | _, [], _, close, noTabClose =>
      ⟨close, [], by simp [writeItems, Source.itemCharacters], rfl, trivial, noTabClose⟩
  | depth, item :: items, textual, close, noTabClose => by
      rcases layout.exists_separator_eq spaced depth with ⟨before, before_eq, noTabBefore⟩
      rcases exists_writeAt_eq spaced depth item textual.1 with
        ⟨value, value_eq, json_eq, isPortable⟩
      rcases exists_writeItems_eq spaced depth items textual.2 noTabClose with
        ⟨after, others, others_eq, jsons_eq, arePortable, noTabAfter⟩
      refine ⟨[], .spaced before value after :: others, ?_, ?_,
        ⟨⟨noTabBefore, isPortable, noTabAfter⟩, arePortable⟩, nofun⟩
      · rw [writeItems, before_eq, value_eq, List.append_assoc _ (writeItems _ _ _), others_eq]
        simp [Source.text, Source.itemCharacters, Source.characters, Spacing.characters]
      · rw [Source.itemJsons, Source.json, json_eq, jsons_eq]
termination_by structural _ items => items

theorem exists_writeMembers_eq (spaced : layout.IsSpaced) : ∀ (depth : Nat)
    (members : List (Text × Json)), MembersAreTextual members →
    ∀ {close : Spacing}, .tab ∉ close →
    ∃ (after : Spacing) (others : List (Name × Source)),
      writeMembers layout depth members ++ .ofCharacters close.characters =
        .ofCharacters (after.characters ++ Source.membersCharacters others) ∧
      Source.memberJsons others = members ∧ Source.MembersObey portable others ∧ .tab ∉ after
  | _, [], _, close, noTabClose =>
      ⟨close, [], by simp [writeMembers, Source.membersCharacters], rfl, trivial, noTabClose⟩
  | depth, member :: members, textual, close, noTabClose => by
      rcases layout.exists_separator_eq spaced depth with ⟨before, before_eq, noTabBefore⟩
      rcases exists_writeMembers_eq spaced depth members textual.2 noTabClose with
        ⟨after, others, others_eq, jsons_eq, arePortable, noTabAfter⟩
      rcases exists_writeMember_eq spaced depth member textual.1 noTabBefore noTabAfter with
        ⟨first, first_eq, json_eq, isPortable⟩
      refine ⟨[], first :: others, ?_, ?_, ⟨isPortable, arePortable⟩, nofun⟩
      · rw [writeMembers, before_eq, List.append_assoc _ (writeMembers _ _ _), others_eq]
        simp [Source.membersCharacters, Spacing.characters, ← first_eq]
      · rw [Source.memberJsons, json_eq, jsons_eq]
termination_by structural _ members => members

theorem exists_writeMember_eq (spaced : layout.IsSpaced) : ∀ (depth : Nat)
    (member : Text × Json), MemberIsTextual member →
    ∀ {before after : Spacing}, .tab ∉ before → .tab ∉ after →
    ∃ source : Name × Source,
      .ofCharacters before.characters ++ writeMember layout depth member ++
          .ofCharacters after.characters =
        .ofCharacters (Source.memberCharacters source) ∧
      Source.memberJson source = member ∧ Source.MemberObeys portable source
  | depth, (name, json), textual, before, after, noTabBefore, noTabAfter => by
      rcases exists_quote_eq textual.1.1 with ⟨pieces, quote_eq, content_eq, onLine⟩
      rcases exists_writeAt_eq spaced depth json textual.2 with
        ⟨value, value_eq, json_eq, isPortable⟩
      have short : pieces.characters.length ≤ Yaml.longestKey := by
        simpa [quote_eq] using textual.1.2
      have noTab : Blank.tab ∉ [Blank.space] := by
        decide
      refine ⟨({ before, pieces }, .spaced [.space] value after), ?_, ?_,
        ⟨noTabBefore, onLine, nofun, nofun, short⟩, noTab, isPortable, noTabAfter⟩
      · have colon_eq : (": " : Text) = .ofCharacters [':', ' '] := rfl
        rw [writeMember, quote_eq, value_eq, colon_eq]
        simp [Source.text, Source.memberCharacters, Source.characters, Spacing.characters,
          Name.characters, Blank.character]
      · rw [Source.memberJson, Source.json, content_eq, json_eq]
termination_by structural _ member => member

end

end Json

end UsageContracts
