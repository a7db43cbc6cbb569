import UsageContracts.Contract.Document
import UsageContracts.Contract.Reading
import UsageContracts.Proofs.Contract.Canonical
import UsageContracts.Proofs.Contract.Reading

/-!
# Reading a contract's own document

Every contract is read back from its document in its canonical form.  The proof
follows the parts of a contract: a term from its identifier, a value and a
constraint, a duty, a rule, and the rules that are listed under one key.
-/

namespace UsageContracts

open Json

/-! ## Terms -/

/-- Every term is the one that its own identifier names. -/
class LawfulVocabulary (α : Type) [Vocabulary α] : Prop where
  ofIdentifier_identifier : ∀ term : α,
    Vocabulary.ofIdentifier (Vocabulary.identifier term) = term

attribute [simp] LawfulVocabulary.ofIdentifier_identifier

instance : LawfulVocabulary Operand where
  ofIdentifier_identifier term := by cases term <;> decide

instance : LawfulVocabulary Operator where
  ofIdentifier_identifier term := by cases term <;> decide

instance : LawfulVocabulary Action where
  ofIdentifier_identifier term := by cases term <;> decide

@[simp]
theorem Datatype.ofIdentifier_identifier (datatype : Datatype) :
    Datatype.ofIdentifier datatype.identifier = datatype := by
  cases datatype <;> decide

theorem Datatype.identifier_ne_nil (datatype : Datatype) : datatype.identifier ≠ [] := by
  cases datatype <;> decide

@[simp]
theorem Rule.actionOf_identifier (action : Action) :
    Rule.actionOf (some (Vocabulary.identifier action)) = action := by
  cases action <;> decide

/-! ## References and literals -/

namespace Value

@[simp]
theorem identifierOf_reference (identifier : Text) :
    view.identifierOf (some (reference identifier).toValue) = .ok (some identifier) := by
  rfl

@[simp]
theorem identifierOf_references (identifier : Text) :
    view.identifierOf (some (.list [(reference identifier).toValue])) = .ok (some identifier) := by
  rfl

@[simp]
theorem literalOf_literals (text : Text) (datatype : Datatype) :
    view.literalOf (some (.list [(literal text datatype).toValue])) = .ok text := by
  rfl

@[simp]
theorem unlessNull?_literal (text : Text) (datatype : Datatype) :
    view.unlessNull? (literal text datatype).toValue = some (literal text datatype).toValue :=
  rfl

/-- A list that is left out when it is empty is read as it was. -/
@[simp]
theorem itemsOf_unlessEmpty {β : Type} (name : Text) (write : β → Value) (items : List β) :
    view.itemsOf name (if items = [] then none else some (.list (items.map write))) =
      .ok (items.map write) := by
  cases items <;> rfl

/-- A literal that is left out when it is empty is read as it was. -/
@[simp]
theorem literalOf_unlessEmpty (text : Text) (datatype : Datatype) :
    view.literalOf
      (if text = [] then none else some (.list [(literal text datatype).toValue])) = .ok text := by
  cases text <;> rfl

end Value

/-! ## The parts of a contract -/

theorem TypedValue.read_literal (value : TypedValue) :
    TypedValue.read Value.view (literal value.text value.datatype).toValue = .ok value := by
  have identifier_eq :
      Value.view.identifier (Value.scalar (.text value.datatype.identifier)) =
        .ok value.datatype.identifier := by
    simp [View.identifier, View.display, Scalar.display, Datatype.identifier_ne_nil]
  simp [read, literal, View.firstOf?, View.find?_cons, identifier_eq,
    Text.ofString_inj]

theorem Constraint.read_toDocument (constraint : Constraint) :
    Constraint.read Value.view constraint.toDocument.toValue = .ok constraint := by
  rcases constraint with ⟨operand, operator, value, informationPoint⟩
  cases informationPoint <;>
    simp [toDocument, read, require, View.property?, View.find?_cons, TypedValue.read_literal,
      Text.ofString_append_ofString, Text.ofString_inj]

/-- The constraints of a rule or a duty are read back. -/
theorem Constraint.readEach_toDocument (constraints : List Constraint) :
    readEach (fun _ item => Constraint.read Value.view item) 0
      (constraints.map (Json.toValue ∘ toDocument)) = .ok constraints :=
  readEach_map constraints 0 fun _ constraint _ => constraint.read_toDocument

theorem Duty.read_toDocument (duty : Duty) :
    Duty.read Value.view duty.toDocument.toValue = .ok duty := by
  rcases duty with ⟨action, constraints⟩
  simp [toDocument, read, require, Constraint.readAll, Constraint.readEach_toDocument,
    View.property?, View.find?_cons, Text.ofString_append_ofString, Text.ofString_inj]

theorem Duty.readEach_toDocument (duties : List Duty) :
    readEach
      (fun index item =>
        (Duty.read Value.view item).mapError (ContractFault.placeInDuty index)) 0
      (duties.map (Json.toValue ∘ toDocument)) = .ok duties := by
  apply readEach_map duties 0
  intro index duty _
  rw [Function.comp_apply, duty.read_toDocument]
  rfl

theorem Rule.read_toDocument (rule : Rule) :
    Rule.read Value.view rule.kind rule.toDocument.toValue = .ok rule := by
  rcases rule with ⟨kind, action, constraints, duties, title, description⟩
  simp [toDocument, read, Constraint.readAll, Constraint.readEach_toDocument,
    Duty.readEach_toDocument, View.property?, View.find?_cons, View.find?_append, find?_memberIf,
    Text.ofString_append_ofString, Text.ofString_inj]

namespace Policy

/-- The rules listed under the key of their kind are read back. -/
theorem readEntry_rules (kind : RuleKind) (rules : List Rule)
    (sameKind : ∀ rule ∈ rules, rule.kind = kind) :
    readEntry Value.view
      (.scalar (.text kind.key), .list (rules.map (Json.toValue ∘ Rule.toDocument))) =
        .ok rules := by
  have kind_eq : RuleKind.ofKey? kind.key = some kind := by
    cases kind <;> decide
  have rules_eq : readEach
      (fun index item =>
        (Rule.read Value.view kind item).mapError (ContractFault.inRule kind index)) 0
      (rules.map (Json.toValue ∘ Rule.toDocument)) = .ok rules := by
    apply readEach_map rules 0
    intro index rule member
    rw [← sameKind rule member, Function.comp_apply, rule.read_toDocument]
    rfl
  simp [readEntry, kind_eq, rules_eq]

/-- The member that holds the rules of one kind, if there is one, is read as
these rules. -/
theorem readEach_groupMember (policy : Policy) (kind : RuleKind) (start : Nat) :
    ∃ results,
      readEach (fun _ entry => readEntry Value.view entry) start
        (memberValues (policy.groupMember kind)) = .ok results ∧
      results.flatten = policy.rulesOf kind := by
  by_cases empty : policy.rulesOf kind = []
  · exact ⟨[], by simp [groupMember, memberIf, empty, readEach], by simp [empty]⟩
  · refine ⟨[policy.rulesOf kind], ?_, by simp⟩
    have read_eq := readEntry_rules kind (policy.rulesOf kind) fun rule member => by
      simpa using (List.mem_filter.mp member).2
    simp [groupMember, memberIf, empty, readEach, read_eq]

/-- The groups of a document make up the canonical order of the rules. -/
theorem rulesOf_append_rulesOf (policy : Policy) :
    policy.rulesOf policy.leadingKind ++ policy.rulesOf policy.leadingKind.opposite =
      policy.canonical.rules := by
  rcases policy with ⟨_ | ⟨first, rest⟩, documentType⟩
  · rfl
  · simp only [rulesOf, leadingKind, canonical, groupByKind, beq_eq_decide]

theorem readEntry_of_ofKey?_eq_none (key : Text) (value : Value)
    (other : RuleKind.ofKey? key = none) :
    readEntry Value.view (.scalar (.text key), value) = .ok [] := by
  simp [readEntry, other]

/-- A document is read as the canonical form of its contract. -/
theorem read_toDocument (policy : Policy) :
    read Value.view policy.toDocument.toValue = .ok policy.canonical := by
  let header := [member "@context" context, member "@type" (.text policy.documentType)]
  have headerRead : readEach (fun _ entry => readEntry Value.view entry) 0
      (memberValues header) = .ok [[], []] := by
    have context_eq := readEntry_of_ofKey?_eq_none "@context" context.toValue (by decide)
    have type_eq := readEntry_of_ofKey?_eq_none "@type"
      (.scalar (.text policy.documentType)) (by decide)
    simp [header, readEach, context_eq, type_eq]
  obtain ⟨leading, leadingRead, leading_eq⟩ :=
    policy.readEach_groupMember policy.leadingKind 2
  obtain ⟨others, othersRead, others_eq⟩ :=
    policy.readEach_groupMember policy.leadingKind.opposite
      (0 + (memberValues header ++ memberValues (policy.groupMember policy.leadingKind)).length)
  have entriesRead := readEach_append (readEach_append headerRead leadingRead) othersRead
  have rules_eq : ([[], []] ++ leading ++ others).flatten = policy.canonical.rules := by
    simp [leading_eq, others_eq, ← policy.rulesOf_append_rulesOf]
  have type_eq : Value.view.find? (memberValues header) "@type" =
      some (.scalar (.text policy.documentType)) := by
    simp [header, View.find?_cons, Text.ofString_inj]
  rw [read, toDocument, toValue_object, Value.entriesOf_map, Outcome.ok_bind, memberValues_append,
    memberValues_append, entriesRead, Outcome.ok_bind, View.find?_append, View.find?_append,
    type_eq]
  simp only [rules_eq]
  by_cases empty : policy.documentType = []
  · simp [Option.filter_some, empty, canonical]
  · simp [Option.filter_some, empty, canonical]

/-- A contract comes back from its document in canonical form.  No rule is lost,
repeated or altered, the first one stays first, and another pass changes nothing
more; nothing changes at all exactly for contracts that name their document type
and list the rules of each kind together. -/
theorem document_round_trip (policy : Policy) :
    read Value.view policy.toDocument.toValue = .ok policy.canonical ∧
      policy.canonical.rules.Perm policy.rules ∧
      (∀ kind, policy.canonical.rules.filter (·.kind = kind) =
        policy.rules.filter (·.kind = kind)) ∧
      HasContiguousKinds policy.canonical.rules ∧
      policy.canonical.rules.head? = policy.rules.head? ∧
      policy.canonical.documentType =
        (if policy.documentType = [] then ("ids:ContractOffer" : Text) else policy.documentType) ∧
      read Value.view policy.canonical.toDocument.toValue = .ok policy.canonical ∧
      (policy.canonical = policy ↔
        HasContiguousKinds policy.rules ∧ policy.documentType ≠ []) := by
  refine ⟨policy.read_toDocument, groupByKind_perm policy.rules,
    filter_groupByKind policy.rules, hasContiguousKinds_groupByKind policy.rules,
    head?_groupByKind policy.rules, ?_, ?_, policy.canonical_eq_self_iff⟩
  · by_cases empty : policy.documentType = [] <;> simp [canonical, empty, defaultDocumentType]
  · rw [policy.canonical.read_toDocument, policy.canonical_canonical]

end Policy

end UsageContracts
