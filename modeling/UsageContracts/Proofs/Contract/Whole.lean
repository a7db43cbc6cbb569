import UsageContracts.Proofs.Contract.TextRoundTrip
import UsageContracts.Proofs.Json.Written

/-!
# Whole contracts

A contract is whole if its texts hold no half of a surrogate pair.  The texts in its
document are whole then, so that a reader of JSON reads the document as it was
written.
-/

namespace UsageContracts

open Json

/-! ## Texts in contracts -/

/-- The texts in a constraint. -/
def Constraint.texts (constraint : Constraint) : List Text :=
  constraint.value.text :: constraint.informationPoint.toList

/-- The texts in a duty. -/
def Duty.texts (duty : Duty) : List Text :=
  duty.constraints.flatMap Constraint.texts

/-- The texts in a rule. -/
def Rule.texts (rule : Rule) : List Text :=
  [rule.title, rule.description] ++ rule.constraints.flatMap Constraint.texts ++
    rule.duties.flatMap Duty.texts

/-- The texts in a contract. -/
def Policy.texts (policy : Policy) : List Text :=
  policy.documentType :: policy.rules.flatMap Rule.texts

/-- Whether the code points in a contract are all characters. -/
def Policy.IsWhole (policy : Policy) : Prop :=
  ∀ text ∈ policy.texts, text.IsWhole

instance (policy : Policy) : Decidable policy.IsWhole :=
  inferInstanceAs (Decidable (∀ text ∈ policy.texts, text.IsWhole))

/-! ## Documents -/

section

open Text (isWhole_ofString)

theorem Vocabulary.identifier_isWhole {α : Type} [Vocabulary α] (term : α)
    (whole : (Vocabulary.name term).IsWhole) : (Vocabulary.identifier term).IsWhole :=
  (isWhole_ofString "idsc:").append whole

theorem reference_isWhole {identifier : Text} (whole : identifier.IsWhole) :
    (reference identifier).IsWhole :=
  membersAreWhole_cons (isWhole_ofString _) (isWhole_text whole) membersAreWhole_nil

theorem literal_isWhole {text : Text} (whole : text.IsWhole) (datatype : Datatype) :
    (literal text datatype).IsWhole := by
  have datatypeWhole : datatype.identifier.IsWhole := by
    cases datatype <;> exact isWhole_ofString _
  exact membersAreWhole_cons (isWhole_ofString _) (isWhole_text whole) <|
    membersAreWhole_cons (isWhole_ofString _) (isWhole_text datatypeWhole) membersAreWhole_nil

theorem actions_areWhole (action : Action) :
    (Json.list [reference (Vocabulary.identifier action)]).IsWhole := by
  apply isWhole_singleton
  apply reference_isWhole
  apply Vocabulary.identifier_isWhole
  cases action <;> exact isWhole_ofString _

theorem Constraint.toDocument_isWhole {constraint : Constraint}
    (whole : ∀ text ∈ constraint.texts, text.IsWhole) : constraint.toDocument.IsWhole := by
  rcases List.forall_mem_cons.mp whole with ⟨valueWhole, endpointWhole⟩
  have operandWhole : (Vocabulary.identifier constraint.operand).IsWhole := by
    apply Vocabulary.identifier_isWhole
    cases constraint.operand <;> exact isWhole_ofString _
  have operatorWhole : (Vocabulary.identifier constraint.operator).IsWhole := by
    apply Vocabulary.identifier_isWhole
    cases constraint.operator <;> exact isWhole_ofString _
  apply isWhole_object
  apply membersAreWhole_append
  · exact membersAreWhole_cons (isWhole_ofString _) (isWhole_text (isWhole_ofString _)) <|
      membersAreWhole_cons (isWhole_ofString _) (reference_isWhole operandWhole) <|
      membersAreWhole_cons (isWhole_ofString _) (reference_isWhole operatorWhole) <|
      membersAreWhole_cons (isWhole_ofString _) (literal_isWhole valueWhole _) membersAreWhole_nil
  · cases endpoint_eq : constraint.informationPoint with
    | none => exact membersAreWhole_nil
    | some endpoint =>
        have isWhole : endpoint.IsWhole := endpointWhole endpoint (by simp [endpoint_eq])
        exact membersAreWhole_cons (isWhole_ofString _) (reference_isWhole isWhole)
          membersAreWhole_nil

theorem constraints_areWhole {constraints : List Constraint}
    (whole : ∀ text ∈ constraints.flatMap Constraint.texts, text.IsWhole) :
    (Json.list (constraints.map Constraint.toDocument)).IsWhole := by
  apply isWhole_list_map
  intro constraint member
  apply Constraint.toDocument_isWhole
  intro text inConstraint
  exact whole text (List.mem_flatMap_of_mem member inConstraint)

theorem Duty.toDocument_isWhole {duty : Duty} (whole : ∀ text ∈ duty.texts, text.IsWhole) :
    duty.toDocument.IsWhole :=
  membersAreWhole_cons (isWhole_ofString _) (isWhole_text (isWhole_ofString _)) <|
    membersAreWhole_cons (isWhole_ofString _) (actions_areWhole duty.action) <|
    membersAreWhole_cons (isWhole_ofString _) (constraints_areWhole whole) membersAreWhole_nil

theorem Rule.toDocument_isWhole {rule : Rule} (whole : ∀ text ∈ rule.texts, text.IsWhole) :
    rule.toDocument.IsWhole := by
  simp only [texts, List.forall_mem_append, List.forall_mem_cons] at whole
  rcases whole with ⟨⟨⟨titleWhole, descriptionWhole, -⟩, constraintsWhole⟩, dutiesWhole⟩
  have kindWhole : rule.kind.documentType.IsWhole := by
    cases rule.kind <;> exact isWhole_ofString _
  have literals {text : Text} (textWhole : text.IsWhole) :
      (Json.list [literal text .string]).IsWhole :=
    isWhole_singleton (literal_isWhole textWhole _)
  have duties : (Json.list (rule.duties.map Duty.toDocument)).IsWhole := by
    apply isWhole_list_map
    intro duty member
    apply Duty.toDocument_isWhole
    intro text inDuty
    exact dutiesWhole text (List.mem_flatMap_of_mem member inDuty)
  apply isWhole_object
  apply membersAreWhole_append
  apply membersAreWhole_append
  apply membersAreWhole_append
  apply membersAreWhole_append
  apply membersAreWhole_append
  · exact membersAreWhole_cons (isWhole_ofString _) (isWhole_text kindWhole) membersAreWhole_nil
  · exact membersAreWhole_memberIf (isWhole_ofString _) (literals titleWhole)
  · exact membersAreWhole_memberIf (isWhole_ofString _) (literals descriptionWhole)
  · exact membersAreWhole_cons (isWhole_ofString _) (actions_areWhole rule.action)
      membersAreWhole_nil
  · exact membersAreWhole_memberIf (isWhole_ofString _) (constraints_areWhole constraintsWhole)
  · exact membersAreWhole_memberIf (isWhole_ofString _) duties

namespace Policy

variable {policy : Policy}

theorem context_isWhole : context.IsWhole :=
  membersAreWhole_cons (isWhole_ofString _) (isWhole_text (isWhole_ofString _)) <|
    membersAreWhole_cons (isWhole_ofString _) (isWhole_text (isWhole_ofString _)) <|
    membersAreWhole_cons (isWhole_ofString _) (isWhole_text (isWhole_ofString _))
      membersAreWhole_nil

theorem IsWhole.rulesOf (whole : policy.IsWhole) (kind : RuleKind) :
    ∀ text ∈ (policy.rulesOf kind).flatMap Rule.texts, text.IsWhole := by
  intro text member
  rcases List.mem_flatMap.mp member with ⟨rule, inKind, inRule⟩
  have inRules : rule ∈ policy.rules := (List.mem_filter.mp inKind).1
  exact whole text (List.mem_cons_of_mem _ (List.mem_flatMap_of_mem inRules inRule))

theorem groupMember_areWhole (whole : policy.IsWhole) (kind : RuleKind) :
    MembersAreWhole (policy.groupMember kind) := by
  have keyWhole : kind.key.IsWhole := by
    apply (isWhole_ofString "ids:").append
    cases kind <;> exact isWhole_ofString _
  apply membersAreWhole_memberIf keyWhole
  apply isWhole_list_map
  intro rule member
  apply Rule.toDocument_isWhole
  intro text inRule
  exact whole.rulesOf kind text (List.mem_flatMap_of_mem member inRule)

/-- The document of a whole contract is whole. -/
theorem toDocument_isWhole (whole : policy.IsWhole) : policy.toDocument.IsWhole := by
  apply isWhole_object
  apply membersAreWhole_append
  apply membersAreWhole_append
  · exact membersAreWhole_cons (isWhole_ofString _) context_isWhole <|
      membersAreWhole_cons (isWhole_ofString _) (isWhole_text (whole _ List.mem_cons_self))
        membersAreWhole_nil
  · exact groupMember_areWhole whole _
  · exact groupMember_areWhole whole _

/-- A reader of JSON reads the text of a contract as its document. -/
theorem read_dump {layout : Layout} (spaced : layout.IsSpaced) (basic : policy.IsBasic)
    (whole : policy.IsWhole) : Json.read (policy.dump layout) = .ok policy.toDocument :=
  read_write spaced (toDocument_isTextual basic) (toDocument_isWhole whole)

end Policy

end

end UsageContracts
