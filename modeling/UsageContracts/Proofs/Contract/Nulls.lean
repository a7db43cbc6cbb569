import UsageContracts.Proofs.Contract.Presentation

/-!
# Nulls in documents

What a null stands for, wherever one is looked up when a contract is read.  Most
nulls stand for nothing, as if their entry were missing.  Where a literal is
written out, null is written out too, as the text `None`.
-/

namespace UsageContracts.Presentation

open Outcome

/-! ## Slots -/

/-- The names of linked data that are looked up in the maps of a contract. -/
inductive Keyword
  | id
  | type
  | value
deriving DecidableEq

/-- The name of a keyword. -/
def Keyword.name : Keyword → Text
  | .id => "@id"
  | .type => "@type"
  | .value => "@value"

/-- What a map is asked for. -/
inductive Slot
  | named (property : Property)
  | marked (keyword : Keyword)
deriving DecidableEq

namespace Slot

/-- Whether a slot is found under a key. -/
def isSpelledBy : Slot → Value → Bool
  | .named property, key => property.isSpelledBy key
  | .marked keyword, key => Value.view.isText keyword.name key

/-- The value in a slot of a map. -/
def value? : Slot → List (Value × Value) → Option Value
  | .named property, entries => property.value? entries
  | .marked keyword, entries => Value.view.find? entries keyword.name

end Slot

/-! ## Rewriting nulls -/

/-- The maps that a contract is read from. -/
inductive Site
  | contract
  | rule
  | duty
  | constraint
  /-- The map of a right operand. -/
  | operand
  /-- The map of a title or a description. -/
  | literal
  /-- The map that names an action, an operand, an operator or an endpoint. -/
  | reference
deriving DecidableEq

/-- What null can stand for. -/
inductive NullMeaning
  | nothing
  | word

/-- The value that null stands for, if any. -/
def NullMeaning.value? : NullMeaning → Option Value
  | .nothing => none
  | .word => some (.scalar (.text "None"))

namespace Site

/-- What null stands for in a slot, if it is looked up in the maps of a site. -/
def nullMeaning? : Site → Slot → Option NullMeaning
  | .contract, .marked .type
  | .contract, .named .permission
  | .contract, .named .prohibition
  | .rule, .named .action
  | .rule, .named .constraint
  | .rule, .named .postDuty
  | .duty, .named .action
  | .duty, .named .constraint
  | .constraint, .named .leftOperand
  | .constraint, .named .operator
  | .constraint, .named .rightOperand
  | .constraint, .named .pipEndpoint
  | .operand, .marked .type
  | .reference, .marked .id => some .nothing
  | .rule, .named .title
  | .rule, .named .description
  | .operand, .marked .value
  | .literal, .marked .value => some .word
  | _, _ => none

/-- The site of the maps that stand in the value of a property. -/
def inner? : Site → Property → Option Site
  | .contract, .permission
  | .contract, .prohibition => some .rule
  | .rule, .action
  | .duty, .action
  | .constraint, .leftOperand
  | .constraint, .operator
  | .constraint, .pipEndpoint => some .reference
  | .rule, .constraint
  | .duty, .constraint => some .constraint
  | .rule, .postDuty => some .duty
  | .rule, .title
  | .rule, .description => some .literal
  | .constraint, .rightOperand => some .operand
  | _, _ => none

end Site

/-- Where a map stands in the value of a property. -/
inductive Frame
  | alone
  | inList (before after : List Value)

/-- The value of a property that holds a map in the given place. -/
def Frame.fill : Frame → List (Value × Value) → Value
  | .alone, entries => .map entries
  | .inList before after, entries => .list (before ++ .map entries :: after)

/-- A null is replaced by what it stands for, in a map of a site or in one
inside.  It has to be the only value in its slot. -/
inductive NullRewrite : Site → List (Value × Value) → List (Value × Value) → Prop
  | null {site : Site} {slot : Slot} {meaning : NullMeaning} {key : Value}
      {before after : List (Value × Value)} :
      site.nullMeaning? slot = some meaning →
      slot.isSpelledBy key = true →
      (∀ entry ∈ before ++ after, ¬ slot.isSpelledBy entry.1 = true) →
      NullRewrite site (before ++ (key, .scalar .null) :: after)
        (before ++ (meaning.value?.map fun value => (key, value)).toList ++ after)
  | inside {site inner : Site} {property : Property} {key : Value} {frame : Frame}
      {part part' before after : List (Value × Value)} :
      site.inner? property = some inner →
      property.isSpelledBy key = true →
      NullRewrite inner part part' →
      NullRewrite site (before ++ (key, frame.fill part) :: after)
        (before ++ (key, frame.fill part') :: after)

/-- Documents that differ in nulls and what they stand for only. -/
def IsNullRewritten (entries entries' : List (Value × Value)) : Prop :=
  Relation.EqvGen (NullRewrite .contract) entries entries'

/-! ## Looking up slots -/

namespace Slot

theorem isText_keyword_of_property {property : Property} {keyword : Keyword} {key : Value}
    (spelled : property.isSpelledBy key = true) :
    Value.view.isText keyword.name key = false := by
  rcases isSpelledBy_iff.mp spelled with rfl | rfl <;> cases property <;> cases keyword <;> decide

/-- A key belongs to one slot at most. -/
theorem isSpelledBy_inj {slot other : Slot} {key : Value}
    (spelled : slot.isSpelledBy key = true) (otherSpelled : other.isSpelledBy key = true) :
    slot = other := by
  cases slot with
  | named property =>
      cases other with
      | named other => rw [Presentation.isSpelledBy_inj spelled otherSpelled]
      | marked keyword => simp [isSpelledBy, isText_keyword_of_property spelled] at otherSpelled
  | marked keyword =>
      cases other with
      | named other => simp [isSpelledBy, isText_keyword_of_property otherSpelled] at spelled
      | marked other =>
          rw [isSpelledBy, Value.isText_iff] at spelled otherSpelled
          have name_eq : keyword.name = other.name := by simpa [spelled] using otherSpelled
          cases keyword <;> cases other <;> first | rfl | exact absurd name_eq (by decide)

theorem value?_eq_none {slot : Slot} {entries : List (Value × Value)}
    (lacks : ∀ entry ∈ entries, ¬ slot.isSpelledBy entry.1 = true) :
    slot.value? entries = none := by
  cases slot with
  | named property =>
      have names : ∀ entry ∈ entries, Value.view.isText property.name entry.1 = false ∧
          Value.view.isText ("ids:" ++ property.name) entry.1 = false := by
        simpa [isSpelledBy, Property.isSpelledBy] using lacks
      rw [value?, Property.value?, View.property?,
        find?_eq_none_of_forall fun entry member => (names entry member).1,
        find?_eq_none_of_forall fun entry member => (names entry member).2]
      rfl
  | marked keyword =>
      exact find?_eq_none_of_forall fun entry member => Bool.eq_false_iff.mpr (lacks entry member)

/-- The only value in a slot is found. -/
theorem value?_of_isSpelledBy {slot : Slot} {key value : Value}
    {before after : List (Value × Value)} (spelled : slot.isSpelledBy key = true)
    (only : ∀ entry ∈ before ++ after, ¬ slot.isSpelledBy entry.1 = true) :
    slot.value? (before ++ (key, value) :: after) = some value := by
  cases slot with
  | named property => exact property?_of_isSpelledBy spelled only
  | marked keyword =>
      have lacks : Value.view.find? before keyword.name = none := by
        have empty : (Slot.marked keyword).value? before = none :=
          value?_eq_none fun entry member => only entry (List.mem_append_left after member)
        exact empty
      have found : Value.view.isText keyword.name key = true := spelled
      simp [value?, View.find?_append, View.find?_cons, lacks, found]

/-- An entry of another slot does not matter. -/
theorem value?_of_not_isSpelledBy {slot : Slot} {key value : Value}
    {before after : List (Value × Value)} (other : slot.isSpelledBy key = false) :
    slot.value? (before ++ (key, value) :: after) = slot.value? (before ++ after) := by
  cases slot with
  | named property => exact property?_of_not_isSpelledBy other
  | marked keyword =>
      have missed : Value.view.isText keyword.name key = false := other
      simp [value?, View.find?_append, View.find?_cons, missed]

end Slot

/-! ## Reading after rewriting -/

/-- Two maps are read alike, wherever the maps of a site are read. -/
def Site.ReadAlike (site : Site) (entries entries' : List (Value × Value)) : Prop :=
  match site with
  | .contract => Policy.read Value.view (.map entries) = Policy.read Value.view (.map entries')
  | .rule => ∀ kind,
      Rule.read Value.view kind (.map entries) = Rule.read Value.view kind (.map entries')
  | .duty => Duty.read Value.view (.map entries) = Duty.read Value.view (.map entries')
  | .constraint =>
      Constraint.read Value.view (.map entries) = Constraint.read Value.view (.map entries')
  | .operand => rightOperand (some (.map entries)) = rightOperand (some (.map entries'))
  | .literal => Value.view.literalOf (some (.map entries)) =
      Value.view.literalOf (some (.map entries'))
  | .reference => Value.view.identifierOf (some (.map entries)) =
      Value.view.identifierOf (some (.map entries'))

/-- What is in a slot before and after a rewriting. -/
inductive SlotRewrite (site : Site) : Slot → Option Value → Option Value → Prop
  | same {slot : Slot} {value? : Option Value} : SlotRewrite site slot value? value?
  | null {slot : Slot} {meaning : NullMeaning} :
      site.nullMeaning? slot = some meaning →
      SlotRewrite site slot (some (.scalar .null)) meaning.value?
  | inside {property : Property} {inner : Site} {part part' : List (Value × Value)}
      (frame : Frame) :
      site.inner? property = some inner →
      inner.ReadAlike part part' →
      SlotRewrite site (.named property) (some (frame.fill part)) (some (frame.fill part'))

namespace SlotRewrite

variable {site : Site} {γ : Type} {meaning : NullMeaning} {value? value'? : Option Value}

/-- A reader that takes null for what it stands for does not tell a slot before
and after a rewriting. -/
theorem congr_marked {keyword : Keyword}
    (rewrite : SlotRewrite site (.marked keyword) value? value'?)
    (means : site.nullMeaning? (.marked keyword) = some meaning) (read : Option Value → γ)
    (null_eq : read (some (.scalar .null)) = read meaning.value?) :
    read value? = read value'? := by
  cases rewrite with
  | same => rfl
  | null means' =>
      obtain rfl := Option.some.inj (means.symm.trans means')
      exact null_eq

@[inherit_doc congr_marked]
theorem congr_named {property : Property} {inner : Site}
    (rewrite : SlotRewrite site (.named property) value? value'?)
    (means : site.nullMeaning? (.named property) = some meaning)
    (has : site.inner? property = some inner) (read : Option Value → γ)
    (null_eq : read (some (.scalar .null)) = read meaning.value?)
    (inside_eq : ∀ {part part'}, inner.ReadAlike part part' → ∀ frame : Frame,
      read (some (frame.fill part)) = read (some (frame.fill part'))) :
    read value? = read value'? := by
  cases rewrite with
  | same => rfl
  | null means' =>
      obtain rfl := Option.some.inj (means.symm.trans means')
      exact null_eq
  | inside frame has' alike =>
      obtain rfl := Option.some.inj (has.symm.trans has')
      exact inside_eq alike frame

end SlotRewrite

/-- Replacing a null changes its own slot only. -/
theorem slotRewrite_of_null {site : Site} {slot : Slot} {meaning : NullMeaning} {key : Value}
    {before after : List (Value × Value)} (means : site.nullMeaning? slot = some meaning)
    (spelled : slot.isSpelledBy key = true)
    (only : ∀ entry ∈ before ++ after, ¬ slot.isSpelledBy entry.1 = true) (other : Slot) :
    SlotRewrite site other (other.value? (before ++ (key, .scalar .null) :: after))
      (other.value?
        (before ++ (meaning.value?.map fun value => (key, value)).toList ++ after)) := by
  by_cases other_eq : other = slot
  · subst other_eq
    have rewritten : other.value?
        (before ++ (meaning.value?.map fun value => (key, value)).toList ++ after) =
          meaning.value? := by
      cases meaning with
      | nothing => simpa [NullMeaning.value?] using Slot.value?_eq_none only
      | word => simpa [NullMeaning.value?] using Slot.value?_of_isSpelledBy spelled only
    rw [Slot.value?_of_isSpelledBy spelled only, rewritten]
    exact .null means
  · have elsewhere : other.isSpelledBy key = false := by
      rw [Bool.eq_false_iff]
      exact fun otherSpelled => other_eq (Slot.isSpelledBy_inj otherSpelled spelled)
    have rewritten : other.value?
        (before ++ (meaning.value?.map fun value => (key, value)).toList ++ after) =
          other.value? (before ++ after) := by
      cases meaning with
      | nothing => simp [NullMeaning.value?]
      | word => simpa [NullMeaning.value?] using Slot.value?_of_not_isSpelledBy elsewhere
    rw [Slot.value?_of_not_isSpelledBy elsewhere, rewritten]
    exact .same

/-- A rewriting inside the value of a property changes the slot of the property
only. -/
theorem slotRewrite_of_inside {site inner : Site} {property : Property} {key : Value}
    {frame : Frame} {part part' before after : List (Value × Value)}
    (has : site.inner? property = some inner) (spelled : property.isSpelledBy key = true)
    (alike : inner.ReadAlike part part') (slot : Slot) :
    SlotRewrite site slot (slot.value? (before ++ (key, frame.fill part) :: after))
      (slot.value? (before ++ (key, frame.fill part') :: after)) := by
  by_cases slot_eq : slot = .named property
  · subst slot_eq
    have agree : Agree (fun value value' => value = frame.fill part ∧ value' = frame.fill part')
        (property.value? (before ++ (key, frame.fill part) :: after))
        (property.value? (before ++ (key, frame.fill part') :: after)) :=
      .or (.find? before after fun _ => ⟨rfl, rfl⟩) (.find? before after fun _ => ⟨rfl, rfl⟩)
    change SlotRewrite site _ (property.value? _) (property.value? _)
    revert agree
    generalize property.value? (before ++ (key, frame.fill part) :: after) = value?
    generalize property.value? (before ++ (key, frame.fill part') :: after) = value'?
    rintro (_ | ⟨rfl, rfl⟩)
    · exact .same
    · exact .inside frame has alike
  · have elsewhere : slot.isSpelledBy key = false := by
      rw [Bool.eq_false_iff]
      intro slotSpelled
      have propertySpelled : (Slot.named property).isSpelledBy key = true := spelled
      exact slot_eq (Slot.isSpelledBy_inj slotSpelled propertySpelled)
    rw [Slot.value?_of_not_isSpelledBy elsewhere, Slot.value?_of_not_isSpelledBy elsewhere]
    exact .same

namespace Frame

variable {part part' : List (Value × Value)}

/-- A reader that reads the first item of a list, if it reads a list, does not
tell maps in a frame that it does not tell by themselves. -/
theorem first_eq {γ : Type} (read : Value → γ) (read_eq : read (.map part) = read (.map part'))
    (single : ∀ entries rest, read (.list (.map entries :: rest)) = read (.map entries))
    (first : ∀ value rest rest', read (.list (value :: rest)) = read (.list (value :: rest')))
    (frame : Frame) : read (frame.fill part) = read (frame.fill part') := by
  cases frame with
  | alone => exact read_eq
  | inList before after =>
      cases before with
      | nil => exact (single part after).trans (read_eq.trans (single part' after).symm)
      | cons value before => exact first value _ _

theorem identifierOf_eq (alike : Site.reference.ReadAlike part part') (frame : Frame) :
    Value.view.identifierOf (some (frame.fill part)) =
      Value.view.identifierOf (some (frame.fill part')) :=
  frame.first_eq (fun value => Value.view.identifierOf (some value)) alike
    (fun _ _ => rfl) (fun _ _ _ => rfl)

theorem requiredTerm_eq (α : Type) [Vocabulary α] (property : RequiredProperty)
    (alike : Site.reference.ReadAlike part part') (frame : Frame) :
    requiredTerm α property (some (frame.fill part)) =
      requiredTerm α property (some (frame.fill part')) := by
  rw [requiredTerm, requiredTerm, frame.identifierOf_eq alike]

theorem literalOf_eq (alike : Site.literal.ReadAlike part part') (frame : Frame) :
    Value.view.literalOf (some (frame.fill part)) =
      Value.view.literalOf (some (frame.fill part')) :=
  frame.first_eq (fun value => Value.view.literalOf (some value)) alike
    (fun _ _ => rfl) (fun _ _ _ => rfl)

theorem rightOperand_eq (alike : Site.operand.ReadAlike part part') (frame : Frame) :
    rightOperand (some (frame.fill part)) = rightOperand (some (frame.fill part')) :=
  frame.first_eq (fun value => rightOperand (some value)) alike
    (fun _ _ => rfl) (fun _ _ _ => rfl)

theorem readEach_eq {β : Type} (name : Text) (read : Nat → Value → Except ContractFault β)
    (read_eq : ∀ index, read index (.map part) = read index (.map part')) (frame : Frame) :
    (Value.view.itemsOf name (some (frame.fill part)) >>= readEach read 0) =
      Value.view.itemsOf name (some (frame.fill part')) >>= readEach read 0 := by
  have rewrite : PartsRewrite (fun first second => first = part ∧ second = part')
      (frame.fill part) (frame.fill part') := by
    cases frame with
    | alone => exact .whole ⟨rfl, rfl⟩
    | inList before after => exact .item ⟨rfl, rfl⟩
  refine rewrite.readEach_eq name ?_
  rintro _ _ ⟨rfl, rfl⟩
  exact read_eq

theorem constraintsOf_eq (alike : Site.constraint.ReadAlike part part') (frame : Frame) :
    constraintsOf (some (frame.fill part)) = constraintsOf (some (frame.fill part')) :=
  frame.readEach_eq "constraint" _ fun _ => alike

theorem dutiesOf_eq (alike : Site.duty.ReadAlike part part') (frame : Frame) :
    dutiesOf (some (frame.fill part)) = dutiesOf (some (frame.fill part')) :=
  frame.readEach_eq "postDuty" _ fun _ => by rw [show Duty.read _ _ = _ from alike]

theorem readEntry_eq (alike : Site.rule.ReadAlike part part') (key : Value) (frame : Frame) :
    Policy.readEntry Value.view (key, frame.fill part) =
      Policy.readEntry Value.view (key, frame.fill part') := by
  have rule_eq : ∀ (kind : RuleKind) (index : Nat),
      (Rule.read Value.view kind (.map part)).mapError (ContractFault.inRule kind index) =
        (Rule.read Value.view kind (.map part')).mapError (ContractFault.inRule kind index) :=
    fun kind index => by rw [alike kind]
  have rules_eq := fun name kind => frame.readEach_eq name
    (fun index item => (Rule.read Value.view kind item).mapError (.inRule kind index))
    (rule_eq kind)
  simp only [Policy.readEntry, rules_eq]

end Frame

/-! ## Sites -/

/-- The text of what a map has under `@value`. -/
def textOr (missing : Except ContractFault Text) : Option Value → Except ContractFault Text
  | none => missing
  | some value => Value.view.text value

theorem literalOf_map (entries : List (Value × Value)) :
    Value.view.literalOf (some (.map entries)) =
      textOr (.ok []) (Value.view.find? entries "@value") := by
  cases found : Value.view.find? entries "@value" <;>
    simp [View.literalOf, View.firstOf?, textOr, found]

theorem rightOperand_entries (entries : List (Value × Value)) :
    rightOperand (some (.map entries)) = do
      let text ← textOr (.error .missingValue) (Value.view.find? entries "@value")
      let datatype ← TypedValue.datatypeOf Value.view (Value.view.find? entries "@type")
      return { text, datatype } := by
  rw [rightOperand_map, TypedValue.ofEntries]
  cases Value.view.find? entries "@value" <;> rfl

namespace Site

variable {entries entries' : List (Value × Value)}

/-- What the maps of a site have in their slots decides how they are read. -/
theorem reference_readAlike
    (slots : ∀ slot, SlotRewrite .reference slot (slot.value? entries) (slot.value? entries')) :
    reference.ReadAlike entries entries' := by
  have naming_eq := (slots (.marked .id)).congr_marked rfl identifierNamed rfl
  simp only [Slot.value?, Keyword.name] at naming_eq
  simp only [ReadAlike, identifierOf_map, naming_eq]

@[inherit_doc reference_readAlike]
theorem literal_readAlike
    (slots : ∀ slot, SlotRewrite .literal slot (slot.value? entries) (slot.value? entries')) :
    literal.ReadAlike entries entries' := by
  have value_eq := (slots (.marked .value)).congr_marked rfl (textOr (.ok [])) rfl
  simp only [Slot.value?, Keyword.name] at value_eq
  simp only [ReadAlike, literalOf_map, value_eq]

@[inherit_doc reference_readAlike]
theorem operand_readAlike
    (slots : ∀ slot, SlotRewrite .operand slot (slot.value? entries) (slot.value? entries')) :
    operand.ReadAlike entries entries' := by
  have value_eq := (slots (.marked .value)).congr_marked rfl (textOr (.error .missingValue)) rfl
  have type_eq := (slots (.marked .type)).congr_marked rfl (TypedValue.datatypeOf Value.view) rfl
  simp only [Slot.value?, Keyword.name] at value_eq type_eq
  simp only [ReadAlike, rightOperand_entries, value_eq, type_eq]

@[inherit_doc reference_readAlike]
theorem constraint_readAlike
    (slots : ∀ slot, SlotRewrite .constraint slot (slot.value? entries) (slot.value? entries')) :
    constraint.ReadAlike entries entries' := by
  have operand_eq := (slots (.named .leftOperand)).congr_named rfl rfl _ rfl
    (Frame.requiredTerm_eq Operand .leftOperand)
  have operator_eq := (slots (.named .operator)).congr_named rfl rfl _ rfl
    (Frame.requiredTerm_eq Operator .operator)
  have value_eq := (slots (.named .rightOperand)).congr_named rfl rfl _ rfl Frame.rightOperand_eq
  have point_eq := (slots (.named .pipEndpoint)).congr_named rfl rfl _ rfl Frame.identifierOf_eq
  simp only [Slot.value?] at operand_eq operator_eq value_eq point_eq
  simp only [ReadAlike, constraint_read_map, operand_eq, operator_eq, value_eq, point_eq]

@[inherit_doc reference_readAlike]
theorem duty_readAlike
    (slots : ∀ slot, SlotRewrite .duty slot (slot.value? entries) (slot.value? entries')) :
    duty.ReadAlike entries entries' := by
  have action_eq := (slots (.named .action)).congr_named rfl rfl _ rfl
    (Frame.requiredTerm_eq Action .action)
  have constraints_eq :=
    (slots (.named .constraint)).congr_named rfl rfl _ rfl Frame.constraintsOf_eq
  simp only [Slot.value?] at action_eq constraints_eq
  simp only [ReadAlike, duty_read_map, action_eq, constraints_eq]

@[inherit_doc reference_readAlike]
theorem rule_readAlike
    (slots : ∀ slot, SlotRewrite .rule slot (slot.value? entries) (slot.value? entries')) :
    rule.ReadAlike entries entries' := by
  have action_eq := (slots (.named .action)).congr_named rfl rfl
    (fun value? => Rule.actionOf <$> Value.view.identifierOf value?) rfl
    fun alike frame => by rw [frame.identifierOf_eq alike]
  have constraints_eq :=
    (slots (.named .constraint)).congr_named rfl rfl _ rfl Frame.constraintsOf_eq
  have duties_eq := (slots (.named .postDuty)).congr_named rfl rfl _ rfl Frame.dutiesOf_eq
  have title_eq := (slots (.named .title)).congr_named rfl rfl _ rfl Frame.literalOf_eq
  have description_eq :=
    (slots (.named .description)).congr_named rfl rfl _ rfl Frame.literalOf_eq
  simp only [Slot.value?] at action_eq constraints_eq duties_eq title_eq description_eq
  intro kind
  simp only [rule_read_map, action_eq, constraints_eq, duties_eq, title_eq, description_eq]

/-- A contract is read from its rules, in the order of its entries, and from the
slot of its type. -/
theorem contract_readAlike (rules_eq : rulesIn entries = rulesIn entries')
    (slots : ∀ slot, SlotRewrite .contract slot (slot.value? entries) (slot.value? entries')) :
    contract.ReadAlike entries entries' := by
  have type_eq := (slots (.marked .type)).congr_marked rfl documentTypeOf rfl
  simp only [Slot.value?, Keyword.name] at type_eq
  simp only [ReadAlike, policy_read_map, rules_eq, type_eq]

theorem readAlike_of_slots {site : Site}
    (rules_eq : site = .contract → rulesIn entries = rulesIn entries')
    (slots : ∀ slot, SlotRewrite site slot (slot.value? entries) (slot.value? entries')) :
    site.ReadAlike entries entries' := by
  cases site with
  | contract => exact contract_readAlike (rules_eq rfl) slots
  | rule => exact rule_readAlike slots
  | duty => exact duty_readAlike slots
  | constraint => exact constraint_readAlike slots
  | operand => exact operand_readAlike slots
  | literal => exact literal_readAlike slots
  | reference => exact reference_readAlike slots

end Site

/-! ## Contracts -/

theorem rulesIn_congr {entry entry' : Value × Value}
    (entry_eq : Policy.readEntry Value.view entry = Policy.readEntry Value.view entry')
    (before after : List (Value × Value)) :
    rulesIn (before ++ entry :: after) = rulesIn (before ++ entry' :: after) := by
  induction before with
  | nil => simp only [List.nil_append, rulesIn_cons, entry_eq]
  | cons other before ih => simp only [List.cons_append, rulesIn_cons, ih]

/-- An entry without rules may be left out. -/
theorem rulesIn_omit {entry : Value × Value}
    (empty : Policy.readEntry Value.view entry = .ok []) (before after : List (Value × Value)) :
    rulesIn (before ++ entry :: after) = rulesIn (before ++ after) := by
  induction before with
  | nil =>
      rw [List.nil_append, List.nil_append, rulesIn_cons, empty]
      cases rulesIn after <;> rfl
  | cons other before ih => simp only [List.cons_append, rulesIn_cons, ih]

theorem readEntry_null (key : Value) :
    Policy.readEntry Value.view (key, .scalar .null) = .ok [] := by
  unfold Policy.readEntry
  split
  · split <;> rfl
  · rfl

theorem nothing_of_contract {slot : Slot} {meaning : NullMeaning}
    (means : Site.contract.nullMeaning? slot = some meaning) : meaning = .nothing := by
  cases slot with
  | named property =>
      cases property <;> cases means
      all_goals rfl
  | marked keyword =>
      cases keyword <;> cases means
      rfl

/-- A null in a map is read as what it stands for.  The induction is on how deep
the null stands: the readers of a map read its parts alike. -/
theorem NullRewrite.readAlike {site : Site} {entries entries' : List (Value × Value)}
    (rewrite : NullRewrite site entries entries') : site.ReadAlike entries entries' := by
  induction rewrite with
  | @null site slot meaning key before after means spelled only =>
      refine Site.readAlike_of_slots ?_ (slotRewrite_of_null means spelled only)
      rintro rfl
      obtain rfl := nothing_of_contract means
      simpa [NullMeaning.value?] using rulesIn_omit (readEntry_null key) before after
  | @inside site inner property key frame part part' before after has spelled _ alike =>
      refine Site.readAlike_of_slots ?_ (slotRewrite_of_inside has spelled alike)
      rintro rfl
      obtain rfl : inner = .rule := by
        cases property <;> cases has
        all_goals rfl
      exact rulesIn_congr (frame.readEntry_eq alike key) before after

/-- A null is read as nothing, or as the text `None` where it is a title, a
description or the value of a literal or a right operand. -/
theorem read_eq_of_isNullRewritten {entries entries' : List (Value × Value)}
    (rewritten : IsNullRewritten entries entries') :
    Policy.read Value.view (.map entries) = Policy.read Value.view (.map entries') := by
  induction rewritten with
  | rel _ _ rewrite => exact rewrite.readAlike
  | refl _ => rfl
  | symm _ _ _ ih => exact ih.symm
  | trans _ _ _ _ _ first second => exact first.trans second

/-! ### Samples -/

/-- The entries of a contract with one permission. -/
def onePermission (rule : List (Value × Value)) : List (Value × Value) :=
  [(.scalar (.text "permission"), .list [.map rule])]

/-- A sample with nulls, and the same sample with what they stand for. -/
def nullSample : List (Value × Value) :=
  (.scalar (.text "@type"), .scalar .null) ::
    onePermission
      [(.scalar (.text "action"), .scalar .null), (.scalar (.text "title"), .scalar .null)]

@[inherit_doc nullSample]
def wordSample : List (Value × Value) :=
  onePermission [(.scalar (.text "title"), .scalar (.text "None"))]

private theorem nullSample_isNullRewritten : IsNullRewritten nullSample wordSample := by
  let key (name : String) : Value := .scalar (.text (Text.ofString name))
  have type : NullRewrite .contract nullSample _ :=
    @NullRewrite.null .contract (.marked .type) .nothing (key "@type") []
      (onePermission [(key "action", .scalar .null), (key "title", .scalar .null)])
      rfl (by decide) (by decide)
  have inRule : ∀ {rule rule'}, NullRewrite .rule rule rule' →
      NullRewrite .contract (onePermission rule) (onePermission rule') := fun rewrite =>
    @NullRewrite.inside .contract .rule .permission (key "permission") (.inList [] []) _ _ [] []
      rfl (by decide) rewrite
  have action : NullRewrite .rule _ _ :=
    @NullRewrite.null .rule (.named .action) .nothing (key "action") []
      [(key "title", .scalar .null)] rfl (by decide) (by decide)
  have title : NullRewrite .rule _ _ :=
    @NullRewrite.null .rule (.named .title) .word (key "title") [] [] rfl (by decide) (by decide)
  exact .trans _ _ _ (.rel _ _ type) <|
    .trans _ _ _ (.rel _ _ (inRule action)) (.rel _ _ (inRule title))

theorem nullSample_read_eq :
    IsNullRewritten nullSample wordSample ∧
      Policy.read Value.view (.map nullSample) = Policy.read Value.view (.map wordSample) :=
  ⟨nullSample_isNullRewritten, read_eq_of_isNullRewritten nullSample_isNullRewritten⟩

/-- A title of null does not count as no title. -/
theorem nullTitle_read_ne :
    (∃ policy,
        Policy.read Value.view
            (.map (onePermission [(.scalar (.text "title"), .scalar .null)])) = .ok policy ∧
          policy.rules.map (·.title) = ["None"]) ∧
      ∃ policy, Policy.read Value.view (.map (onePermission [])) = .ok policy ∧
        policy.rules.map (·.title) = [[]] :=
  ⟨⟨_, rfl, rfl⟩, ⟨_, rfl, rfl⟩⟩

end UsageContracts.Presentation
