import UsageContracts.Proofs.Json.Reading
import UsageContracts.Proofs.Json.Textual

/-!
# Reading written documents

A textual document that is written as JSON is read by a reader of JSON as it was, in
whatever layout it is written, if its texts hold no half of a surrogate pair.
-/

namespace UsageContracts.Json

mutual

/-- The texts in a JSON value, with the names of members. -/
def texts : Json → List Text
  | .text content => [content]
  | .list items => itemTexts items
  | .object members => membersTexts members
  | _ => []
termination_by structural json => json

/-- The texts in the items of a list. -/
def itemTexts : List Json → List Text
  | [] => []
  | item :: items => texts item ++ itemTexts items
termination_by structural items => items

/-- The texts in the members of an object. -/
def membersTexts : List (Text × Json) → List Text
  | [] => []
  | member :: members => memberTexts member ++ membersTexts members
termination_by structural members => members

/-- The texts in a member of an object. -/
def memberTexts : Text × Json → List Text
  | (name, json) => name :: texts json
termination_by structural member => member

end

/-- Whether every code point in the texts of a JSON value is a character. -/
def IsWhole (json : Json) : Prop :=
  ∀ text ∈ json.texts, text.IsWhole

/-- Whether every code point in the texts of members is a character. -/
def MembersAreWhole (members : List (Text × Json)) : Prop :=
  ∀ text ∈ membersTexts members, text.IsWhole

theorem isWhole_text {content : Text} (whole : content.IsWhole) : (text content).IsWhole :=
  List.forall_mem_singleton.mpr whole

theorem isWhole_list_map {α : Type} {write : α → Json} {items : List α}
    (whole : ∀ item ∈ items, (write item).IsWhole) : (list (items.map write)).IsWhole := by
  induction items with
  | nil => exact List.forall_mem_nil _
  | cons item items ih =>
      rcases List.forall_mem_cons.mp whole with ⟨itemWhole, itemsWhole⟩
      exact List.forall_mem_append.mpr ⟨itemWhole, ih itemsWhole⟩

theorem isWhole_singleton {json : Json} (whole : json.IsWhole) : (list [json]).IsWhole :=
  List.forall_mem_append.mpr ⟨whole, List.forall_mem_nil _⟩

theorem membersAreWhole_nil : MembersAreWhole [] :=
  List.forall_mem_nil _

theorem membersAreWhole_cons {name : Text} {json : Json} {members : List (Text × Json)}
    (nameWhole : name.IsWhole) (whole : json.IsWhole) (rest : MembersAreWhole members) :
    MembersAreWhole (member name json :: members) :=
  List.forall_mem_append.mpr ⟨List.forall_mem_cons.mpr ⟨nameWhole, whole⟩, rest⟩

theorem membersAreWhole_append {first second : List (Text × Json)}
    (firstWhole : MembersAreWhole first) (secondWhole : MembersAreWhole second) :
    MembersAreWhole (first ++ second) := by
  induction first with
  | nil => exact secondWhole
  | cons member members ih =>
      rcases List.forall_mem_append.mp firstWhole with ⟨memberWhole, membersWhole⟩
      exact List.forall_mem_append.mpr ⟨memberWhole, ih membersWhole⟩

theorem membersAreWhole_memberIf {condition : Bool} {name : Text} {json : Json}
    (nameWhole : name.IsWhole) (whole : json.IsWhole) :
    MembersAreWhole (memberIf condition name json) := by
  cases condition with
  | false => exact membersAreWhole_nil
  | true => exact membersAreWhole_cons nameWhole whole membersAreWhole_nil

theorem isWhole_object {members : List (Text × Json)} (whole : MembersAreWhole members) :
    (object members).IsWhole :=
  whole

/-! ## Readable trees -/

theorem Pieces.isReadable {pieces : Pieces} (whole : pieces.content.IsWhole) :
    readable.string pieces := by
  intro piece member half point_eq
  have isSome := whole _ (List.mem_map_of_mem member)
  rw [point_eq] at isSome
  cases isSome

theorem isReadable_number {decimal : DecimalText} (portableNumber : portable.number decimal) :
    readable.number decimal := by
  intro isInteger
  rcases portableNumber with ⟨-, short⟩ | isPointed
  · exact short
  · have isSome := isPointed.1
    rw [isInteger.1] at isSome
    cases isSome

namespace Source

mutual

/-- What YAML reads a reader of JSON reads too, unless there are halves. -/
theorem isReadable_of_isPortable : ∀ source : Source, source.IsPortable →
    source.json.IsWhole → source.IsReadable
  | .word _, _, _ => trivial
  | .number _, obeys, _ => isReadable_number obeys
  | .string _, _, whole => Pieces.isReadable (List.forall_mem_singleton.mp whole)
  | .spaced _ value _, obeys, whole =>
      ⟨trivial, isReadable_of_isPortable value obeys.2.1 whole, trivial⟩
  | .emptyList _, _, _ => trivial
  | .list first others, obeys, whole => by
      rcases List.forall_mem_append.mp whole with ⟨firstWhole, othersWhole⟩
      exact ⟨isReadable_of_isPortable first obeys.1 firstWhole,
        itemsAreReadable others obeys.2 othersWhole⟩
  | .emptyObject _, _, _ => trivial
  | .object first others, obeys, whole => by
      rcases List.forall_mem_append.mp whole with ⟨firstWhole, othersWhole⟩
      exact ⟨obeys.1, memberIsReadable first obeys.2.1 firstWhole,
        membersAreReadable others obeys.2.2 othersWhole⟩
termination_by structural source => source

theorem itemsAreReadable : ∀ items : List Source, ItemsObey portable items →
    (∀ text ∈ itemTexts (itemJsons items), text.IsWhole) → ItemsObey readable items
  | [], _, _ => trivial
  | item :: items, obeys, whole => by
      rcases List.forall_mem_append.mp whole with ⟨itemWhole, itemsWhole⟩
      exact ⟨isReadable_of_isPortable item obeys.1 itemWhole,
        itemsAreReadable items obeys.2 itemsWhole⟩
termination_by structural items => items

theorem membersAreReadable : ∀ members : List (Name × Source), MembersObey portable members →
    (∀ text ∈ membersTexts (memberJsons members), text.IsWhole) → MembersObey readable members
  | [], _, _ => trivial
  | member :: members, obeys, whole => by
      rcases List.forall_mem_append.mp whole with ⟨memberWhole, membersWhole⟩
      exact ⟨memberIsReadable member obeys.1 memberWhole,
        membersAreReadable members obeys.2 membersWhole⟩
termination_by structural members => members

theorem memberIsReadable : ∀ member : Name × Source, MemberObeys portable member →
    (∀ text ∈ memberTexts (memberJson member), text.IsWhole) → MemberObeys readable member
  | (name, value), obeys, whole => by
      rcases List.forall_mem_cons.mp whole with ⟨nameWhole, valueWhole⟩
      exact ⟨⟨trivial, Pieces.isReadable nameWhole, trivial, trivial⟩,
        isReadable_of_isPortable value obeys.2 valueWhole⟩
termination_by structural member => member

end

end Source

/-! ## Documents -/

/-- A written document is read as it was. -/
theorem read_write {layout : Layout} {json : Json} (spaced : layout.IsSpaced)
    (textual : json.IsTextual) (whole : json.IsWhole) : read (json.write layout) = .ok json := by
  rcases exists_writeAt_eq spaced 0 json textual with ⟨source, write_eq, json_eq, isPortable⟩
  have isReadable : source.IsReadable :=
    source.isReadable_of_isPortable isPortable (json_eq.symm ▸ whole)
  rw [write, write_eq, read_source isReadable, json_eq]

end UsageContracts.Json
