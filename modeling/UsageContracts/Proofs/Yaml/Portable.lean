import UsageContracts.Proofs.Yaml.Flow
import UsageContracts.Proofs.Yaml.Forms
import UsageContracts.Proofs.Yaml.Quoted
import UsageContracts.Yaml.Token.Sequence

/-!
# JSON texts between brackets

A JSON text has the value that it has as a value between brackets, as long as its
parts are as YAML demands of such values: without tabs, with short names before
their colons, and without characters that YAML excludes or takes for the end of a
line.
-/

namespace UsageContracts

open Yaml

/-- A scalar with the characters of a plain scalar has its value. -/
theorem Yaml.Flow.sound_of_plainValue {characters : List Char} {content : Scalar}
    (value_eq : plainValue characters = .ok content) :
    (scalar (.ofCharacters characters) true).IsSound ∧
      (scalar (.ofCharacters characters) true).value = .scalar content := by
  have tag_eq : scalarTag (.ofCharacters characters) true = .ofPlain characters := by
    simp [scalarTag, NodeProperties.scalarTag, Tag.ofText]
  have found : scalarValue (scalarTag (.ofCharacters characters) true)
      (.ofCharacters characters) = .ok content := by
    rw [tag_eq, ← plainValue, value_eq]
  rcases hasValue_of_scalarValue found with ⟨hasValue, content_eq⟩
  exact ⟨hasValue, congrArg Value.scalar content_eq⟩

namespace Json

/-! ## Rules -/

/-- What YAML asks of the parts of a JSON text.  A numeral that is no integer has to
have a fraction, and a sign before the digits of its exponent. -/
def portable : Source.Rules where
  spacing spacing := .tab ∉ spacing
  number decimal :=
    (decimal.IsInteger ∧ decimal.whole.characters.length ≤ longestInteger) ∨ IsPointed decimal
  string pieces := ∀ piece ∈ pieces, IsOnLine piece
  name name := (∀ blank ∈ name.after, blank = .space) ∧
    name.pieces.characters.length + name.after.length ≤ longestKey

namespace Source

/-- Whether the parts of a text are as YAML asks, and the names of each object
differ. -/
abbrev IsPortable (source : Source) : Prop :=
  source.Obeys portable

mutual

/-- The value of a text as it is written between brackets. -/
def flow : Source → Flow
  | .word name => .scalar (.ofCharacters name.characters) true
  | .number decimal => .scalar (.ofCharacters decimal.characters) true
  | .string pieces => .scalar pieces.content false
  | .spaced _ value _ => flow value
  | .emptyList _ => .list []
  | .list first others => .list (flow first :: itemFlows others)
  | .emptyObject _ => .map []
  | .object first others => .map (memberFlow first :: memberFlows others)
termination_by structural source => source

/-- The values of the items of a list. -/
def itemFlows : List Source → List Flow
  | [] => []
  | item :: items => flow item :: itemFlows items
termination_by structural items => items

/-- The members of an object. -/
def memberFlows : List (Name × Source) → List (Text × Flow)
  | [] => []
  | member :: members => memberFlow member :: memberFlows members
termination_by structural members => members

/-- A member of an object. -/
def memberFlow : Name × Source → Text × Flow
  | (name, value) => (name.pieces.content, flow value)
termination_by structural member => member

end

/-- Whether a value is written without quotation marks and brackets. -/
def IsPlain : Source → Prop
  | .word _ => True
  | .number _ => True
  | .spaced _ value _ => value.IsPlain
  | _ => False
termination_by structural source => source

/-! ## Values -/

theorem names_memberFlows (members : List (Name × Source)) :
    (memberFlows members).map (·.1) = (memberJsons members).map (·.1) := by
  induction members with
  | nil => rfl
  | cons member members ih =>
      rcases member with ⟨name, value⟩
      rw [memberFlows, memberJsons, List.map_cons, List.map_cons, ih, memberFlow, memberJson]

theorem flow_word (word : Word) :
    (flow (.word word)).IsSound ∧ (flow (.word word)).value = word.json.toValue := by
  cases word with
  | null => exact Flow.sound_of_plainValue plainValue_null
  | false => exact Flow.sound_of_plainValue plainValue_false
  | true => exact Flow.sound_of_plainValue plainValue_true

theorem flow_number {decimal : DecimalText} (portableNumber : portable.number decimal) :
    (flow (.number decimal)).IsSound ∧
      (flow (.number decimal)).value = (json (.number decimal)).toValue := by
  rcases portableNumber with ⟨isInteger, short⟩ | isPointed
  · rw [json, if_pos isInteger]
    exact Flow.sound_of_plainValue (plainValue_integer isInteger short)
  · have notInteger : ¬ decimal.IsInteger := by
      intro isInteger
      have isSome := isPointed.1
      rw [isInteger.1] at isSome
      cases isSome
    rw [json, if_neg notInteger]
    exact Flow.sound_of_plainValue (plainValue_float isPointed)

mutual

/-- A portable text is sound between brackets, and it has the same value there. -/
theorem flow_sound : ∀ source : Source, source.Obeys portable →
    source.flow.IsSound ∧ source.flow.value = source.json.toValue
  | .word name, _ => flow_word name
  | .number _, obeys => flow_number obeys
  | .string pieces, _ => ⟨Flow.hasValue_quoted _, rfl⟩
  | .spaced _ value _, obeys => flow_sound value obeys.2.1
  | .emptyList _, _ => ⟨trivial, rfl⟩
  | .list first others, obeys => by
      rcases flow_sound first obeys.1 with ⟨sound, value_eq⟩
      rcases itemFlows_sound others obeys.2 with ⟨areSound, values_eq⟩
      exact ⟨⟨sound, areSound⟩, congrArg Value.list (congrArg₂ List.cons value_eq values_eq)⟩
  | .emptyObject _, _ => ⟨⟨List.nodup_nil, trivial⟩, rfl⟩
  | .object first others, obeys => by
      rcases memberFlow_sound first obeys.2.1 with ⟨sound, value_eq⟩
      rcases memberFlows_sound others obeys.2.2 with ⟨areSound, values_eq⟩
      have nodup : ((memberFlows (first :: others)).map (·.1)).Nodup := by
        rw [names_memberFlows]
        exact obeys.1
      exact ⟨⟨nodup, sound, areSound⟩,
        congrArg Value.map (congrArg₂ List.cons value_eq values_eq)⟩
termination_by structural source => source

theorem itemFlows_sound : ∀ items : List Source, ItemsObey portable items →
    Flow.AreSound (itemFlows items) ∧
      Flow.itemValues (itemFlows items) = Json.itemValues (itemJsons items)
  | [], _ => ⟨trivial, rfl⟩
  | item :: items, obeys => by
      rcases flow_sound item obeys.1 with ⟨sound, value_eq⟩
      rcases itemFlows_sound items obeys.2 with ⟨areSound, values_eq⟩
      exact ⟨⟨sound, areSound⟩, congrArg₂ List.cons value_eq values_eq⟩
termination_by structural items => items

theorem memberFlows_sound : ∀ members : List (Name × Source), MembersObey portable members →
    Flow.MembersAreSound (memberFlows members) ∧
      Flow.memberValues (memberFlows members) = Json.memberValues (memberJsons members)
  | [], _ => ⟨trivial, rfl⟩
  | member :: members, obeys => by
      rcases memberFlow_sound member obeys.1 with ⟨sound, value_eq⟩
      rcases memberFlows_sound members obeys.2 with ⟨areSound, values_eq⟩
      exact ⟨⟨sound, areSound⟩, congrArg₂ List.cons value_eq values_eq⟩
termination_by structural members => members

theorem memberFlow_sound : ∀ member : Name × Source, MemberObeys portable member →
    Flow.MemberIsSound (memberFlow member) ∧
      Flow.memberValue (memberFlow member) = Json.memberValue (memberJson member)
  | (name, value), obeys => by
      rcases flow_sound value obeys.2 with ⟨sound, value_eq⟩
      exact ⟨sound, congrArg (Prod.mk _) value_eq⟩
termination_by structural member => member

end

end Source

end Json

end UsageContracts
