import UsageContracts.Contract.Document
import UsageContracts.Proofs.Contract.Distinction
import UsageContracts.Proofs.Contract.Terms

/-!
# What the plain form of a contract tells

Contracts with the same plain form are the same, also if the members of objects may stand in
any order: what is left out of a plain form is told by its absence.
-/

namespace UsageContracts

/-! ## Sameness of JSON values -/

namespace Json

/-- Whether values are the same up to the order of the members of objects. -/
inductive IsSame : Json → Json → Prop
  | null : IsSame .null .null
  | bool {value : Bool} : IsSame (.bool value) (.bool value)
  | integer {value : Int} : IsSame (.integer value) (.integer value)
  | float {value : Binary64} : IsSame (.float value) (.float value)
  | text {content : Text} : IsSame (.text content) (.text content)
  | list {items others : List Json} : List.Forall₂ IsSame items others →
      IsSame (.list items) (.list others)
  | object {members others : List (Text × Json)} :
      (∀ name, Option.Rel IsSame (members.lookup name) (others.lookup name)) →
      IsSame (.object members) (.object others)

mutual

theorem IsSame.refl : ∀ json : Json, json.IsSame json
  | .null => .null
  | .bool _ => .bool
  | .integer _ => .integer
  | .float _ => .float
  | .text _ => .text
  | .list items => .list (itemsAreSame_refl items)
  | .object members => .object (membersAreSame_refl members)
termination_by structural json => json

theorem itemsAreSame_refl : ∀ items : List Json, List.Forall₂ IsSame items items
  | [] => .nil
  | item :: items => .cons (IsSame.refl item) (itemsAreSame_refl items)
termination_by structural items => items

theorem membersAreSame_refl : ∀ (members : List (Text × Json)) (name : Text),
    Option.Rel IsSame (members.lookup name) (members.lookup name)
  | [], _ => .none
  | (key, json) :: members, name => by
      rw [List.lookup_cons]
      cases name == key with
      | true => exact .some (IsSame.refl json)
      | false => exact membersAreSame_refl members name
termination_by structural members => members

end

@[simp]
theorem isSame_text_iff {content other : Text} :
    (text content).IsSame (.text other) ↔ content = other := by
  constructor
  · rintro ⟨⟩
    rfl
  · rintro rfl
    exact .text

theorem isSame_object_iff {members others : List (Text × Json)} :
    (object members).IsSame (.object others) ↔
      ∀ name, Option.Rel IsSame (members.lookup name) (others.lookup name) := by
  constructor
  · rintro ⟨⟩
    assumption
  · exact .object

/-- Lists whose items are told apart are told apart. -/
theorem isSame_list_map_iff {α : Type} {write : α → Json} {items others : List α}
    (item_iff : ∀ item other, (write item).IsSame (write other) ↔ item = other) :
    (list (items.map write)).IsSame (.list (others.map write)) ↔ items = others := by
  constructor
  · intro same
    cases same with
    | list are =>
        rw [List.forall₂_map_left_iff, List.forall₂_map_right_iff] at are
        rw [← List.forall₂_eq_eq_eq]
        exact are.imp fun item other => (item_iff item other).mp
  · rintro rfl
    exact .refl _

@[simp]
theorem lookup_member (name key : Text) (json : Json) (members : List (Text × Json)) :
    (member name json :: members).lookup key =
      if name = key then some json else members.lookup key := by
  by_cases same : name = key
  · simp [member, same]
  · have differ : (key == name) = false := by
      simpa using Ne.symm same
    rw [member, List.lookup_cons, differ, if_neg same]

@[simp]
theorem lookup_memberIf (condition : Bool) (name key : Text) (json : Json) :
    (memberIf condition name json).lookup key =
      if condition ∧ name = key then some json else none := by
  cases condition <;> simp [memberIf]

/-- A text that is left out if it is empty is told nevertheless. -/
@[simp]
theorem rel_unlessEmpty_iff {content other : Text} :
    Option.Rel IsSame (if content = [] then none else some (text content))
      (if other = [] then none else some (text other)) ↔ content = other := by
  cases content <;> cases other <;> simp

end Json

open Json

/-! ## Contracts -/

theorem RuleKind.name_inj {kind other : RuleKind} (same : kind.name = other.name) :
    kind = other := by
  revert same
  cases kind <;> cases other <;> decide

theorem TypedValue.toPlain_isSame_iff (value other : TypedValue) :
    value.toPlain.IsSame other.toPlain ↔ value = other := by
  constructor
  · intro same
    rcases value with ⟨text, datatype⟩
    rcases other with ⟨otherText, otherDatatype⟩
    have members := isSame_object_iff.mp same
    obtain rfl : text = otherText := by
      simpa using members "value"
    have identifier_eq : datatype.identifier = otherDatatype.identifier := by
      simpa [Text.ofString_inj] using members "datatype"
    obtain rfl := Datatype.localName_identifier_inj (congrArg localName identifier_eq)
    rfl
  · rintro rfl
    exact .refl _

theorem Constraint.toPlain_isSame_iff (constraint other : Constraint) :
    constraint.toPlain.IsSame other.toPlain ↔ constraint = other := by
  constructor
  · intro same
    rcases constraint with ⟨operand, operator, value, point⟩
    rcases other with ⟨otherOperand, otherOperator, otherValue, otherPoint⟩
    have members := isSame_object_iff.mp same
    have operand_eq : Vocabulary.name operand = Vocabulary.name otherOperand := by
      simpa using members "operand"
    have operator_eq : Vocabulary.name operator = Vocabulary.name otherOperator := by
      simpa [Text.ofString_inj] using members "operator"
    obtain rfl : value = otherValue := by
      simpa [Text.ofString_inj, TypedValue.toPlain_isSame_iff] using members "value"
    obtain rfl := Vocabulary.operand_isNamed.name_inj _ _ operand_eq
    obtain rfl := Vocabulary.operator_isNamed.name_inj _ _ operator_eq
    -- An endpoint that is there is told from none at all, also if it is empty.
    have point_same := members "pip_endpoint"
    cases point <;> cases otherPoint <;> simp [Text.ofString_inj] at point_same ⊢
    exact point_same
  · rintro rfl
    exact .refl _

theorem Duty.toPlain_isSame_iff (duty other : Duty) :
    duty.toPlain.IsSame other.toPlain ↔ duty = other := by
  constructor
  · intro same
    rcases duty with ⟨action, constraints⟩
    rcases other with ⟨otherAction, otherConstraints⟩
    have members := isSame_object_iff.mp same
    have action_eq : Vocabulary.name action = Vocabulary.name otherAction := by
      simpa using members "action"
    obtain rfl : constraints = otherConstraints := by
      simpa [Text.ofString_inj, isSame_list_map_iff Constraint.toPlain_isSame_iff]
        using members "constraints"
    obtain rfl := Vocabulary.action_isNamed.name_inj _ _ action_eq
    rfl
  · rintro rfl
    exact .refl _

theorem Rule.toPlain_isSame_iff (rule other : Rule) :
    rule.toPlain.IsSame other.toPlain ↔ rule = other := by
  constructor
  · intro same
    rcases rule with ⟨kind, action, constraints, duties, title, description⟩
    rcases other with ⟨otherKind, otherAction, otherConstraints, otherDuties, otherTitle,
      otherDescription⟩
    have members := isSame_object_iff.mp same
    have kind_eq : kind.name = otherKind.name := by
      simpa using members "kind"
    have action_eq : Vocabulary.name action = Vocabulary.name otherAction := by
      simpa [Text.ofString_inj] using members "action"
    obtain rfl : constraints = otherConstraints := by
      simpa [Text.ofString_inj, isSame_list_map_iff Constraint.toPlain_isSame_iff]
        using members "constraints"
    obtain rfl : duties = otherDuties := by
      simpa [Text.ofString_inj, isSame_list_map_iff Duty.toPlain_isSame_iff]
        using members "post_duties"
    obtain rfl : title = otherTitle := by
      simpa [Text.ofString_inj, List.lookup_append] using members "title"
    obtain rfl : description = otherDescription := by
      simpa [Text.ofString_inj, List.lookup_append] using members "description"
    obtain rfl := RuleKind.name_inj kind_eq
    obtain rfl := Vocabulary.action_isNamed.name_inj _ _ action_eq
    rfl
  · rintro rfl
    exact .refl _

/-- Contracts with the same plain form are the same. -/
theorem Policy.toPlain_isSame_iff (policy other : Policy) :
    policy.toPlain.IsSame other.toPlain ↔ policy = other := by
  constructor
  · intro same
    rcases policy with ⟨rules, documentType⟩
    rcases other with ⟨otherRules, otherDocumentType⟩
    have members := isSame_object_iff.mp same
    obtain rfl : documentType = otherDocumentType := by
      simpa using members "document_type"
    obtain rfl : rules = otherRules := by
      simpa [Text.ofString_inj, isSame_list_map_iff Rule.toPlain_isSame_iff]
        using members "rules"
    rfl
  · rintro rfl
    exact .refl _

/-! ## Halves -/

theorem Vocabulary.halved_operand (operand : Operand) :
    (name operand).halved = name operand := by
  cases operand <;> rfl

theorem Vocabulary.halved_operator (operator : Operator) :
    (name operator).halved = name operator := by
  cases operator <;> rfl

theorem Vocabulary.halved_action (action : Action) : (name action).halved = name action := by
  cases action <;> rfl

theorem TypedValue.halved_toPlain (value : TypedValue) :
    value.toPlain.halved = toPlain { value with text := value.text.halved } := by
  rcases value with ⟨text, datatype⟩
  cases datatype <;> rfl

theorem Constraint.halved_toPlain (constraint : Constraint) :
    constraint.toPlain.halved = constraint.halved.toPlain := by
  rcases constraint with ⟨operand, operator, value, point⟩
  have names : ("operand" : Text).halved = "operand" ∧ ("operator" : Text).halved = "operator" ∧
      ("value" : Text).halved = "value" ∧ ("pip_endpoint" : Text).halved = "pip_endpoint" :=
    ⟨rfl, rfl, rfl, rfl⟩
  cases point <;>
    simp [toPlain, halved, Json.halved, membersHalved, memberHalved, member, names,
      Vocabulary.halved_operand, Vocabulary.halved_operator, TypedValue.halved_toPlain]

theorem Duty.halved_toPlain (duty : Duty) : duty.toPlain.halved = duty.halved.toPlain := by
  have names : ("action" : Text).halved = "action" ∧
      ("constraints" : Text).halved = "constraints" :=
    ⟨rfl, rfl⟩
  simp [toPlain, halved, Json.halved, membersHalved, memberHalved, member, names,
    itemsHalved_eq_map, Vocabulary.halved_action, Constraint.halved_toPlain]

theorem Rule.halved_toPlain (rule : Rule) : rule.toPlain.halved = rule.halved.toPlain := by
  have names : ("kind" : Text).halved = "kind" ∧ ("action" : Text).halved = "action" ∧
      ("constraints" : Text).halved = "constraints" ∧
      ("post_duties" : Text).halved = "post_duties" ∧ ("title" : Text).halved = "title" ∧
      ("description" : Text).halved = "description" :=
    ⟨rfl, rfl, rfl, rfl, rfl, rfl⟩
  have kind_eq : rule.kind.name.halved = rule.kind.name := by
    cases rule.kind <;> rfl
  simp [toPlain, halved, Json.halved, membersHalved, memberHalved, member, names, kind_eq,
    itemsHalved_eq_map, membersHalved_append, membersHalved_memberIf, Text.isEmpty_halved,
    Vocabulary.halved_action, Constraint.halved_toPlain, Duty.halved_toPlain]

/-- The plain form of a contract is halved with the contract. -/
theorem Policy.halved_toPlain (policy : Policy) :
    policy.toPlain.halved = policy.halved.toPlain := by
  have names : ("document_type" : Text).halved = "document_type" ∧
      ("rules" : Text).halved = "rules" :=
    ⟨rfl, rfl⟩
  simp [toPlain, halved, Json.halved, membersHalved, memberHalved, member, names,
    itemsHalved_eq_map, Rule.halved_toPlain]

theorem Constraint.toPlain_isFloatless (constraint : Constraint) :
    constraint.toPlain.IsFloatless := by
  apply membersAreFloatless_append
  · exact ⟨trivial, trivial, ⟨trivial, trivial, trivial⟩, trivial⟩
  · cases constraint.informationPoint with
    | none => trivial
    | some endpoint => exact ⟨trivial, trivial⟩

theorem Duty.toPlain_isFloatless (duty : Duty) : duty.toPlain.IsFloatless :=
  ⟨trivial, areFloatless_map _ Constraint.toPlain_isFloatless, trivial⟩

theorem Rule.toPlain_isFloatless (rule : Rule) : rule.toPlain.IsFloatless := by
  apply membersAreFloatless_append
  · apply membersAreFloatless_append
    · exact ⟨trivial, trivial, areFloatless_map _ Constraint.toPlain_isFloatless,
        areFloatless_map _ Duty.toPlain_isFloatless, trivial⟩
    · exact membersAreFloatless_memberIf trivial
  · exact membersAreFloatless_memberIf trivial

theorem Policy.toPlain_isFloatless (policy : Policy) : policy.toPlain.IsFloatless :=
  ⟨trivial, areFloatless_map _ Rule.toPlain_isFloatless, trivial⟩

end UsageContracts
