import Mathlib.Data.List.Basic
import UsageContracts.Proofs.Contract.Identifier
import UsageContracts.Proofs.Contract.Reading
import UsageContracts.Proofs.Contract.Rewriting
import UsageContracts.Proofs.Document.Lookup
import UsageContracts.Proofs.Outcome

/-!
# Presentation does not matter

Rewritten documents are read alike.  A rewriting of the entries of a map leaves
each property as it is or rewrites its value, and each reader takes the rewritten
values of its properties as equal.
-/

namespace UsageContracts.Presentation

open Outcome

/-! ## Spellings -/

/-- The value of a property among the entries of a map. -/
def Property.value? (property : Property) (entries : List (Value × Value)) : Option Value :=
  Value.view.property? entries property.name

theorem isSpelledBy_iff {property : Property} {key : Value} :
    property.isSpelledBy key = true ↔
      key = .scalar (.text property.name) ∨ key = .scalar (.text ("ids:" ++ property.name)) := by
  rw [Property.isSpelledBy, Bool.or_eq_true, Value.isText_iff, Value.isText_iff]

theorem name_inj {property other : Property} : property.name = other.name → property = other := by
  cases property <;> cases other <;> decide

/-- No name is another one with its prefix. -/
theorem name_ne_prefixed (property other : Property) : property.name ≠ "ids:" ++ other.name := by
  cases property <;> cases other <;> decide

/-- A key names one property at most. -/
theorem isSpelledBy_inj {property other : Property} {key : Value}
    (spelled : property.isSpelledBy key = true) (otherSpelled : other.isSpelledBy key = true) :
    property = other := by
  rcases isSpelledBy_iff.mp spelled with rfl | rfl <;>
    rcases isSpelledBy_iff.mp otherSpelled with key_eq | key_eq
  · exact name_inj (by simpa using key_eq)
  · exact (name_ne_prefixed property other (by simpa using key_eq)).elim
  · exact (name_ne_prefixed other property (by simpa using key_eq.symm)).elim
  · exact name_inj (by simpa using key_eq)

/-! ## Looking up properties -/

/-- What is found before and after a rewriting: the same, or a value and its
rewriting. -/
inductive Agree (rewrite : Value → Value → Prop) : Option Value → Option Value → Prop
  | same {value? : Option Value} : Agree rewrite value? value?
  | value {value value' : Value} :
      rewrite value value' → Agree rewrite (some value) (some value')

namespace Agree

variable {rewrite : Value → Value → Prop}

/-- A reader that takes rewritten values as equal does not tell what agrees. -/
theorem congr {γ : Type} {value? value'? : Option Value} (agree : Agree rewrite value? value'?)
    (read : Option Value → γ)
    (read_eq : ∀ {value value'}, rewrite value value' →
      read (some value) = read (some value')) :
    read value? = read value'? := by
  cases agree with
  | same => rfl
  | value rewritten => exact read_eq rewritten

theorem or {first? first'? second? second'? : Option Value}
    (first : Agree rewrite first? first'?) (second : Agree rewrite second? second'?) :
    Agree rewrite (first?.or second?) (first'?.or second'?) := by
  cases first with
  | same =>
      cases first? with
      | none => exact second
      | some value => exact .same
  | value rewritten => exact .value rewritten

/-- A lookup finds the same value, or a value and its rewriting. -/
theorem find? {text : Text} {key value value' : Value} (before after : List (Value × Value))
    (rewritten : Value.view.isText text key = true → rewrite value value') :
    Agree rewrite (Value.view.find? (before ++ (key, value) :: after) text)
      (Value.view.find? (before ++ (key, value') :: after) text) := by
  rw [View.find?_append, View.find?_append, View.find?_cons, View.find?_cons]
  refine .or .same ?_
  cases found : Value.view.isText text key with
  | true => exact .value (rewritten found)
  | false => exact .same

end Agree

theorem find?_eq_none_of_forall {entries : List (Value × Value)} {text : Text}
    (lacks : ∀ entry ∈ entries, Value.view.isText text entry.1 = false) :
    Value.view.find? entries text = none := by
  rw [View.find?, Option.map_eq_none_iff, List.find?_eq_none]
  intro entry member
  rw [lacks entry member]
  exact Bool.false_ne_true

/-- An entry that names another property is not found. -/
theorem property?_of_not_isSpelledBy {property : Property} {key value : Value}
    {before after : List (Value × Value)} (other : property.isSpelledBy key = false) :
    Value.view.property? (before ++ (key, value) :: after) property.name =
      Value.view.property? (before ++ after) property.name := by
  obtain ⟨bare, prefixed⟩ : Value.view.isText property.name key = false ∧
      Value.view.isText ("ids:" ++ property.name) key = false := by
    simpa [Property.isSpelledBy] using other
  simp [View.property?, View.find?_append, View.find?_cons, bare, prefixed]

/-- The only entry that names a property is found. -/
theorem property?_of_isSpelledBy {property : Property} {key value : Value}
    {before after : List (Value × Value)} (spelled : property.isSpelledBy key = true)
    (only : ∀ entry ∈ before ++ after, ¬ property.isSpelledBy entry.1) :
    Value.view.property? (before ++ (key, value) :: after) property.name = some value := by
  have missing : ∀ text, (text = property.name ∨ text = "ids:" ++ property.name) →
      Value.view.find? before text = none ∧ Value.view.find? after text = none := by
    intro text text_eq
    have lacks : ∀ entry ∈ before ++ after, Value.view.isText text entry.1 = false := by
      intro entry member
      have others := only entry member
      simp only [Property.isSpelledBy, Bool.not_eq_true, Bool.or_eq_false_iff] at others
      rcases text_eq with rfl | rfl
      · exact others.1
      · exact others.2
    exact ⟨find?_eq_none_of_forall fun entry member =>
        lacks entry (List.mem_append_left after member),
      find?_eq_none_of_forall fun entry member =>
        lacks entry (List.mem_append_right before member)⟩
  rcases missing property.name (.inl rfl) with ⟨bareBefore, bareAfter⟩
  rcases missing ("ids:" ++ property.name) (.inr rfl) with ⟨prefixedBefore, prefixedAfter⟩
  simp only [View.property?, View.find?_append, View.find?_cons, bareBefore, bareAfter,
    prefixedBefore, prefixedAfter, Option.none_or]
  rcases Bool.or_eq_true_iff.mp spelled with bare | prefixed
  · simp [bare]
  · cases bare : Value.view.isText property.name key <;> simp [prefixed]

/-- A lookup passes over entries that are not read. -/
theorem find?_filter {isRead : Value → Bool} {text : Text}
    (read : ∀ key, Value.view.isText text key = true → isRead key = true)
    (entries : List (Value × Value)) :
    Value.view.find? (entries.filter fun entry => isRead entry.1) text =
      Value.view.find? entries text := by
  induction entries with
  | nil => rfl
  | cons entry entries ih =>
      cases entryRead : isRead entry.1 with
      | true =>
          rw [List.filter_cons_of_pos (by exact entryRead), View.find?_cons, View.find?_cons, ih]
      | false =>
          have other : Value.view.isText text entry.1 = false := by
            rw [Bool.eq_false_iff]
            intro found
            rw [read entry.1 found] at entryRead
            cases entryRead
          rw [List.filter_cons_of_neg (by simp [entryRead]), View.find?_cons, other, ih]
          rfl

/-- A rewriting of entries rewrites the properties that are read. -/
theorem EntriesRewrite.agree {isRead : Value → Bool} {values : Property → Value → Value → Prop}
    {entries entries' : List (Value × Value)}
    (rewrite : EntriesRewrite isRead values entries entries') {property : Property}
    (read : ∀ key, property.isSpelledBy key = true → isRead key = true) :
    Agree (values property) (property.value? entries) (property.value? entries') := by
  unfold Property.value?
  cases rewrite with
  | @key other key key' value before after spelled spelled' only =>
      by_cases property_eq : property = other
      · subst property_eq
        rw [property?_of_isSpelledBy spelled only, property?_of_isSpelledBy spelled' only]
        exact .same
      · have elsewhere : ∀ {key}, other.isSpelledBy key = true →
            property.isSpelledBy key = false := by
          intro key otherSpelled
          rw [Bool.eq_false_iff]
          intro propertySpelled
          exact property_eq (isSpelledBy_inj propertySpelled otherSpelled)
        rw [property?_of_not_isSpelledBy (elsewhere spelled),
          property?_of_not_isSpelledBy (elsewhere spelled')]
        exact .same
  | unread filter_eq =>
      have found : ∀ text,
          (∀ key, Value.view.isText text key = true → property.isSpelledBy key = true) →
          Value.view.find? entries text = Value.view.find? entries' text := by
        intro text spells
        have textRead := fun key isText => read key (spells key isText)
        rw [← find?_filter textRead entries, filter_eq, find?_filter textRead entries']
      rw [View.property?, View.property?,
        found property.name (by simp +contextual [Property.isSpelledBy]),
        found ("ids:" ++ property.name) (by simp +contextual [Property.isSpelledBy])]
      exact .same
  | @value other key value value' before after spelled rewritten =>
      have rewrites : property.isSpelledBy key = true → values property value value' := by
        intro propertySpelled
        rwa [isSpelledBy_inj propertySpelled spelled]
      exact .or (.find? before after fun found => rewrites (by simp [Property.isSpelledBy, found]))
        (.find? before after fun found => rewrites (by simp [Property.isSpelledBy, found]))

theorem spellsOneOf_of_mem {properties : List Property} {property : Property}
    (member : property ∈ properties) (key : Value) (spelled : property.isSpelledBy key = true) :
    spellsOneOf properties key = true :=
  List.any_eq_true.mpr ⟨property, member, spelled⟩

/-! ## Local names -/

theorem localName_append {before name : Text} (ends : IsNamespace before)
    (plain : ∀ point ∈ name, point.isNamespaceEnd = false) :
    localName (before ++ name) = name := by
  rcases List.eq_nil_or_concat before with rfl | ⟨init, last, rfl⟩
  · exact localName_eq_self plain
  · have last_ends : last.isNamespaceEnd = true := by simpa [IsNamespace] using ends
    rw [List.concat_append, localName_qualified last_ends, localName_eq_self plain]

theorem NamespaceRewrite.localName_eq {text text' : Text} (rewrite : NamespaceRewrite text text') :
    localName text = localName text' := by
  rcases rewrite with ⟨ends, ends', -, plain⟩
  rw [localName_append ends plain, localName_append ends' plain]

theorem NamespaceRewrite.isEmpty_eq {text text' : Text} (rewrite : NamespaceRewrite text text') :
    text.isEmpty = false ∧ text'.isEmpty = false := by
  rcases rewrite with ⟨-, -, named, -⟩
  simp [named]

theorem NamespaceRewrite.term_eq {α : Type} [Vocabulary α] {text text' : Text}
    (rewrite : NamespaceRewrite text text') :
    (Vocabulary.ofIdentifier text : α) = Vocabulary.ofIdentifier text' := by
  simp only [Vocabulary.ofIdentifier, rewrite.isEmpty_eq, rewrite.localName_eq]

theorem NamespaceRewrite.datatype_eq {text text' : Text}
    (rewrite : NamespaceRewrite text text') :
    Datatype.ofIdentifier text = Datatype.ofIdentifier text' := by
  simp only [Datatype.ofIdentifier, rewrite.isEmpty_eq, rewrite.localName_eq]

theorem NamespaceRewrite.action_eq {text text' : Text} (rewrite : NamespaceRewrite text text') :
    Rule.actionOf (some text) = Rule.actionOf (some text') := by
  rw [Rule.actionOf, Rule.actionOf, rewrite.isEmpty_eq.1, rewrite.isEmpty_eq.2, rewrite.term_eq]

/-! ## Values of properties -/

/-- What is read of the first item of a list, if it is no list, is read of the
item alone. -/
theorem FirstRewrite.read_eq {γ : Type} {item : Value → Value → Prop} {value value' : Value}
    (rewrite : FirstRewrite item value value') (read : Value → γ)
    (single : ∀ {value value'}, item value value' → read value = read value' ∧
      ∀ rest, read (.list (value :: rest)) = read value ∧
        read (.list (value' :: rest)) = read value') :
    read value = read value' := by
  cases rewrite with
  | whole rewritten => exact (single rewritten).1
  | first rewritten =>
      rcases single rewritten with ⟨read_eq, first_eq⟩
      rw [(first_eq _).1, (first_eq _).2, read_eq]

theorem EntryRewrite.exists_map {key : Text} {value value' : Value}
    (rewrite : EntryRewrite key value value') :
    ∃ entries entries', value = .map entries ∧ value' = .map entries' ∧
      Agree TextRewrite (Value.view.find? entries key) (Value.view.find? entries' key) ∧
      ∀ other, other ≠ key →
        Value.view.find? entries other = Value.view.find? entries' other := by
  rcases rewrite with ⟨text⟩
  refine ⟨_, _, rfl, rfl, .find? _ _ fun _ => text, fun other other_ne => ?_⟩
  have isText_eq : Value.view.isText other (.scalar (.text key)) = false := by
    simpa using other_ne.symm
  simp only [View.find?_append, View.find?_cons, isText_eq, Bool.false_eq_true, if_false]

theorem identifierOf_of_mem_identifierForms {identifier : Text} {value : Value}
    (form : value ∈ identifierForms identifier) :
    Value.view.identifierOf (some value) = .ok (some identifier) := by
  simp only [identifierForms, List.mem_cons, List.not_mem_nil, or_false] at form
  rcases form with rfl | rfl | rfl | rfl <;> rfl

theorem FormRewrite.identifierOf_eq {value value' : Value} (rewrite : FormRewrite value value') :
    Value.view.identifierOf (some value) = Value.view.identifierOf (some value') := by
  rcases rewrite with ⟨form, form'⟩
  rw [identifierOf_of_mem_identifierForms form, identifierOf_of_mem_identifierForms form']

/-- The identifier that a map gives by what it has under `@id`. -/
def identifierNamed (naming? : Option Value) : Except ContractFault (Option Text) :=
  match naming?.bind Value.view.unlessNull? with
  | none => .ok none
  | some naming => some <$> Value.view.text naming

theorem identifierOf_map (entries : List (Value × Value)) :
    Value.view.identifierOf (some (.map entries)) =
      identifierNamed (Value.view.find? entries "@id") := by
  have namingValue_eq : Value.view.namingValue? (.map entries) =
      (Value.view.find? entries "@id").bind Value.view.unlessNull? := by
    rfl
  rw [View.identifierOf, Option.bind_some, namingValue_eq, identifierNamed]
  cases (Value.view.find? entries "@id").bind Value.view.unlessNull? <;> rfl

/-- What is read from identifiers does not depend on their forms and, if it
depends on local names only, not on their namespaces. -/
theorem TermRewrite.map_identifierOf_eq {γ : Type} {value value' : Value}
    (rewrite : TermRewrite value value') (read : Option Text → γ)
    (read_eq : ∀ {text text'}, NamespaceRewrite text text' →
      read (some text) = read (some text')) :
    read <$> Value.view.identifierOf (some value) =
      read <$> Value.view.identifierOf (some value') := by
  cases rewrite with
  | form form => rw [form.identifierOf_eq]
  | renamed renamed =>
      refine renamed.read_eq (fun value => read <$> Value.view.identifierOf (some value)) ?_
      rintro value value' (⟨⟨identifiers⟩⟩ | ⟨entry⟩)
      · exact ⟨congrArg Except.ok (read_eq identifiers), fun rest => ⟨rfl, rfl⟩⟩
      · rcases entry.exists_map with ⟨entries, entries', rfl, rfl, naming, -⟩
        refine ⟨?_, fun rest => ⟨rfl, rfl⟩⟩
        rw [identifierOf_map, identifierOf_map]
        refine naming.congr (fun naming? => read <$> identifierNamed naming?) ?_
        rintro _ _ ⟨identifiers⟩
        exact congrArg Except.ok (read_eq identifiers)

theorem ListedRewrite.literalOf_eq {value value' : Value} (rewrite : ListedRewrite value value') :
    Value.view.literalOf (some value) = Value.view.literalOf (some value') := by
  cases rewrite <;> rfl

/-- Read a right operand that has to be there. -/
def rightOperand (value? : Option Value) : Except ContractFault TypedValue := do
  let right ← require .rightOperand (value?.bind Value.view.unlessNull?)
  TypedValue.read Value.view right

theorem ListedRewrite.rightOperand_eq {value value' : Value}
    (rewrite : ListedRewrite value value') :
    rightOperand (some value) = rightOperand (some value') := by
  cases rewrite <;> rfl

theorem rightOperand_map (entries : List (Value × Value)) :
    rightOperand (some (.map entries)) = TypedValue.ofEntries Value.view entries :=
  TypedValue.read_map entries

/-- The namespace of a datatype does not matter. -/
theorem rightOperand_eq_of_datatype {value value' : Value}
    (rewrite : FirstRewrite (EntryRewrite "@type") value value') :
    rightOperand (some value) = rightOperand (some value') := by
  refine rewrite.read_eq (fun value => rightOperand (some value)) ?_
  intro value value' entry
  rcases entry.exists_map with ⟨entries, entries', rfl, rfl, type, others_eq⟩
  refine ⟨?_, fun rest => ⟨rfl, rfl⟩⟩
  have datatype_eq : TypedValue.datatypeOf Value.view (Value.view.find? entries "@type") =
      TypedValue.datatypeOf Value.view (Value.view.find? entries' "@type") := by
    apply type.congr (TypedValue.datatypeOf Value.view)
    rintro _ _ ⟨identifiers⟩
    simp [TypedValue.datatypeOf, View.identifier, View.display, Scalar.display,
      identifiers.isEmpty_eq, identifiers.datatype_eq]
  rw [rightOperand_map, rightOperand_map, TypedValue.ofEntries, TypedValue.ofEntries, datatype_eq,
    others_eq "@value" (by decide)]

/-! ## Parts -/

/-- Parts that are read alike before and after a rewriting are read alike in any
place of a list and outside of lists. -/
theorem PartsRewrite.readEach_eq {β : Type}
    {entries : List (Value × Value) → List (Value × Value) → Prop} {value value' : Value}
    (rewrite : PartsRewrite entries value value') (name : Text)
    {read : Nat → Value → Except ContractFault β}
    (read_eq : ∀ {part part'}, entries part part' →
      ∀ index, read index (.map part) = read index (.map part')) :
    (Value.view.itemsOf name (some value) >>= readEach read 0) =
      Value.view.itemsOf name (some value') >>= readEach read 0 := by
  have replaced : ∀ {part part'}, entries part part' → ∀ before after : List Value,
      readEach read 0 (before ++ .map part :: after) =
        readEach read 0 (before ++ .map part' :: after) := by
    intro part part' rewritten before after
    have same : ∀ items : List Value, List.Forall₂
        (fun item item' => ∀ index, read index item = read index item') items items :=
      fun items => List.forall₂_same.mpr fun _ _ _ => rfl
    exact readEach_eq_of_forall₂
      (List.rel_append (same before) (.cons (read_eq rewritten) (same after)))
      (fun alike => alike) 0
  cases rewrite with
  | whole rewritten => exact replaced rewritten [] []
  | item rewritten => exact replaced rewritten _ _
  | listed => rfl

/-! ## Constraints, duties and rules -/

/-- Read the term that an identifier names, which has to be there. -/
def requiredTerm (α : Type) [Vocabulary α] (property : RequiredProperty)
    (value? : Option Value) : Except ContractFault α := do
  let identifier ← require property (← Value.view.identifierOf value?)
  return Vocabulary.ofIdentifier identifier

theorem TermRewrite.requiredTerm_eq {α : Type} [Vocabulary α] {value value' : Value}
    (rewrite : TermRewrite value value') (property : RequiredProperty) :
    requiredTerm α property (some value) = requiredTerm α property (some value') := by
  let read (identifier? : Option Text) : Except ContractFault α :=
    Vocabulary.ofIdentifier <$> require property identifier?
  have read_eq : ∀ value?, requiredTerm α property value? =
      read <$> Value.view.identifierOf value? >>= id := by
    intro value?
    cases identifier_eq : Value.view.identifierOf value? with
    | error fault => simp [requiredTerm, identifier_eq]
    | ok identifier? =>
        cases required_eq : require property identifier? <;>
          simp [requiredTerm, read, identifier_eq, required_eq]
  rw [read_eq, read_eq, rewrite.map_identifierOf_eq read]
  intro text text' identifiers
  exact congrArg Except.ok identifiers.term_eq

/-- Read the constraints that a property gives. -/
def constraintsOf (value? : Option Value) : Except ContractFault (List Constraint) :=
  Value.view.itemsOf "constraint" value? >>=
    readEach (fun _ item => Constraint.read Value.view item) 0

/-- Read the duties that a property gives. -/
def dutiesOf (value? : Option Value) : Except ContractFault (List Duty) :=
  Value.view.itemsOf "postDuty" value? >>=
    readEach (fun index item => (Duty.read Value.view item).mapError (.placeInDuty index)) 0

theorem constraint_read_map (entries : List (Value × Value)) :
    Constraint.read Value.view (.map entries) = do
      let operand ← requiredTerm Operand .leftOperand (Property.leftOperand.value? entries)
      let operator ← requiredTerm Operator .operator (Property.operator.value? entries)
      let value ← rightOperand (Property.rightOperand.value? entries)
      let informationPoint ← Value.view.identifierOf (Property.pipEndpoint.value? entries)
      return { operand, operator, value, informationPoint } := by
  simp [Constraint.read, requiredTerm, rightOperand, Property.value?, Property.name]

theorem duty_read_map (entries : List (Value × Value)) :
    Duty.read Value.view (.map entries) = do
      let action ← requiredTerm Action .action (Property.action.value? entries)
      let constraints ← constraintsOf (Property.constraint.value? entries)
      return { action, constraints } := by
  simp [Duty.read, requiredTerm, constraintsOf, Constraint.readAll, Property.value?, Property.name]

theorem rule_read_map (kind : RuleKind) (entries : List (Value × Value)) :
    Rule.read Value.view kind (.map entries) = do
      let action ← Rule.actionOf <$> Value.view.identifierOf (Property.action.value? entries)
      let constraints ← constraintsOf (Property.constraint.value? entries)
      let duties ← dutiesOf (Property.postDuty.value? entries)
      let title ← Value.view.literalOf (Property.title.value? entries)
      let description ← Value.view.literalOf (Property.description.value? entries)
      return { kind, action, constraints, duties, title, description } := by
  simp [Rule.read, constraintsOf, dutiesOf, Constraint.readAll, Property.value?, Property.name]

/-- Rewritten entries make the same constraint. -/
theorem ConstraintRewrite.read_eq {entries entries' : List (Value × Value)}
    (rewrite : ConstraintRewrite entries entries') :
    Constraint.read Value.view (.map entries) = Constraint.read Value.view (.map entries') := by
  have agree : ∀ property ∈ _, Agree (ConstraintValueRewrite property) _ _ :=
    fun property member => EntriesRewrite.agree rewrite (spellsOneOf_of_mem member)
  have operand_eq := (agree .leftOperand (by simp)).congr (requiredTerm Operand .leftOperand) <| by
    rintro value value' ⟨rewritten⟩
    exact rewritten.requiredTerm_eq .leftOperand
  have operator_eq := (agree .operator (by simp)).congr (requiredTerm Operator .operator) <| by
    rintro value value' (_ | rewritten)
    exact rewritten.requiredTerm_eq .operator
  have value_eq := (agree .rightOperand (by simp)).congr rightOperand <| by
    rintro value value' (_ | _ | listed | datatype)
    · exact listed.rightOperand_eq
    · exact rightOperand_eq_of_datatype datatype
  have point_eq := (agree .pipEndpoint (by simp)).congr Value.view.identifierOf <| by
    rintro value value' (_ | _ | _ | _ | form)
    exact form.identifierOf_eq
  rw [constraint_read_map, constraint_read_map, operand_eq, operator_eq, value_eq, point_eq]

theorem constraintsOf_eq {value value' : Value}
    (rewrite : PartsRewrite ConstraintRewrite value value') :
    constraintsOf (some value) = constraintsOf (some value') :=
  rewrite.readEach_eq "constraint" fun constraint _ => constraint.read_eq

/-- Rewritten entries make the same duty. -/
theorem DutyRewrite.read_eq {entries entries' : List (Value × Value)}
    (rewrite : DutyRewrite entries entries') :
    Duty.read Value.view (.map entries) = Duty.read Value.view (.map entries') := by
  have agree : ∀ property ∈ _, Agree (DutyValueRewrite property) _ _ :=
    fun property member => EntriesRewrite.agree rewrite (spellsOneOf_of_mem member)
  have action_eq := (agree .action (by simp)).congr (requiredTerm Action .action) <| by
    rintro value value' ⟨rewritten⟩
    exact rewritten.requiredTerm_eq .action
  have constraints_eq := (agree .constraint (by simp)).congr constraintsOf <| by
    rintro value value' (_ | rewritten)
    exact constraintsOf_eq rewritten
  rw [duty_read_map, duty_read_map, action_eq, constraints_eq]

theorem dutiesOf_eq {value value' : Value} (rewrite : PartsRewrite DutyRewrite value value') :
    dutiesOf (some value) = dutiesOf (some value') :=
  rewrite.readEach_eq "postDuty" fun duty _ => by rw [duty.read_eq]

/-- Rewritten entries make the same rule. -/
theorem RuleRewrite.read_eq {entries entries' : List (Value × Value)}
    (rewrite : RuleRewrite entries entries') (kind : RuleKind) :
    Rule.read Value.view kind (.map entries) = Rule.read Value.view kind (.map entries') := by
  have agree : ∀ property ∈ _, Agree (RuleValueRewrite property) _ _ :=
    fun property member => EntriesRewrite.agree rewrite (spellsOneOf_of_mem member)
  have action_eq := (agree .action (by simp)).congr
    (fun value? => Rule.actionOf <$> Value.view.identifierOf value?) <| by
      rintro value value' ⟨rewritten⟩
      exact rewritten.map_identifierOf_eq Rule.actionOf NamespaceRewrite.action_eq
  have constraints_eq := (agree .constraint (by simp)).congr constraintsOf <| by
    rintro value value' (_ | rewritten)
    exact constraintsOf_eq rewritten
  have duties_eq := (agree .postDuty (by simp)).congr dutiesOf <| by
    rintro value value' (_ | _ | rewritten)
    exact dutiesOf_eq rewritten
  have title_eq := (agree .title (by simp)).congr Value.view.literalOf <| by
    rintro value value' (_ | _ | _ | listed)
    exact listed.literalOf_eq
  have description_eq := (agree .description (by simp)).congr Value.view.literalOf <| by
    rintro value value' (_ | _ | _ | _ | listed)
    exact listed.literalOf_eq
  rw [rule_read_map, rule_read_map, action_eq, constraints_eq, duties_eq, title_eq, description_eq]

/-! ## Contracts -/

/-- The rules of a contract, in the order of its entries. -/
def rulesIn (entries : List (Value × Value)) : Except ContractFault (List Rule) :=
  List.flatten <$> readEach (fun _ entry => Policy.readEntry Value.view entry) 0 entries

/-- The document type of a contract. -/
def documentTypeOf (type? : Option Value) : Except ContractFault Text :=
  match type?.filter fun type => (Value.view.layer type).isTruthy with
  | none => .ok defaultDocumentType
  | some type => Value.view.text type

/-- A reader that does not ask for indices may count from anywhere. -/
theorem readEach_start_eq {α β ε : Type} (read : α → Except ε β) (start start' : Nat)
    (items : List α) :
    readEach (fun _ item => read item) start items =
      readEach (fun _ item => read item) start' items := by
  induction items generalizing start start' with
  | nil => rfl
  | cons item items ih => rw [readEach, readEach, ih (start + 1) (start' + 1)]

theorem rulesIn_cons (entry : Value × Value) (entries : List (Value × Value)) :
    rulesIn (entry :: entries) = do
      let first ← Policy.readEntry Value.view entry
      let rest ← rulesIn entries
      return first ++ rest := by
  rw [rulesIn, rulesIn, readEach, readEach_start_eq _ (0 + 1) 0]
  simp [map_eq_pure_bind]

theorem policy_read_map (entries : List (Value × Value)) :
    Policy.read Value.view (.map entries) = do
      let rules ← rulesIn entries
      let documentType ← documentTypeOf (Value.view.find? entries "@type")
      return { rules, documentType } := by
  simp only [Policy.read, Value.entriesOf_map, ok_bind, rulesIn, bind_map_left, documentTypeOf]
  cases (Value.view.find? entries "@type").filter
    fun type => (Value.view.layer type).isTruthy <;> rfl

theorem ofKey?_eq_none {text : Text}
    (other : spellsOneOf [.permission, .prohibition] (.scalar (.text text)) = false) :
    RuleKind.ofKey? text = none := by
  have texts : text ≠ "permission" ∧ text ≠ "ids:permission" ∧ text ≠ "prohibition" ∧
      text ≠ "ids:prohibition" := by
    simpa [spellsOneOf, Property.isSpelledBy, Property.name, Text.ofString_append_ofString,
      and_assoc] using other
  simp [RuleKind.ofKey?, texts]

theorem readEntry_of_not_spelled {entry : Value × Value}
    (other : spellsOneOf [.permission, .prohibition] entry.1 = false) :
    Policy.readEntry Value.view entry = .ok [] := by
  rcases entry with ⟨key, value⟩
  cases key with
  | scalar content =>
      cases content with
      | text text => simp [Policy.readEntry, ofKey?_eq_none other]
      | _ => rfl
  | _ => rfl

/-- Entries that hold no rules may be left out. -/
theorem rulesIn_filter (entries : List (Value × Value)) :
    rulesIn (entries.filter fun entry => isContractKey entry.1) = rulesIn entries := by
  induction entries with
  | nil => rfl
  | cons entry entries ih =>
      cases entryRead : isContractKey entry.1 with
      | true => rw [List.filter_cons_of_pos (by exact entryRead), rulesIn_cons, rulesIn_cons, ih]
      | false =>
          have none : Policy.readEntry Value.view entry = .ok [] :=
            readEntry_of_not_spelled (Bool.or_eq_false_iff.mp entryRead).1
          rw [List.filter_cons_of_neg (by simp [entryRead]), rulesIn_cons, none, ih]
          cases rulesIn entries <;> rfl

/-- Reading fails alike up to the prefix of a key. -/
theorem mapError_bind {α β : Type} (f : ContractFault → ContractFault)
    (first : Except ContractFault α) (next : α → Except ContractFault β) :
    (first >>= next).mapError f = first.mapError f >>= fun value => (next value).mapError f := by
  cases first <;> rfl

theorem rulesIn_replace {entry entry' : Value × Value}
    (entry_eq : (Policy.readEntry Value.view entry).mapError ContractFault.unprefixed =
      (Policy.readEntry Value.view entry').mapError ContractFault.unprefixed)
    (before after : List (Value × Value)) :
    (rulesIn (before ++ entry :: after)).mapError ContractFault.unprefixed =
      (rulesIn (before ++ entry' :: after)).mapError ContractFault.unprefixed := by
  induction before with
  | nil => simp only [List.nil_append, rulesIn_cons, mapError_bind, entry_eq]
  | cons other before ih =>
      simp only [List.cons_append, rulesIn_cons, mapError_bind, ih]

theorem readEntry_key {property : Property} {key key' : Value} (value : Value)
    (spelled : property.isSpelledBy key = true) (spelled' : property.isSpelledBy key' = true) :
    (Policy.readEntry Value.view (key, value)).mapError ContractFault.unprefixed =
      (Policy.readEntry Value.view (key', value)).mapError ContractFault.unprefixed := by
  have kind_eq : RuleKind.ofKey? ("ids:" ++ property.name) = RuleKind.ofKey? property.name := by
    cases property <;> decide
  have prefix_eq : (ContractFault.notAList ("ids:" ++ property.name)).unprefixed =
      (ContractFault.notAList property.name).unprefixed := by
    cases property <;> decide
  have items_eq : (Value.view.itemsOf ("ids:" ++ property.name) (some value)).mapError
        ContractFault.unprefixed =
      (Value.view.itemsOf property.name (some value)).mapError ContractFault.unprefixed := by
    cases value with
    | scalar content =>
        cases content with
        | null => rfl
        | _ => exact congrArg Except.error prefix_eq
    | list | map => rfl
    | tuple | set => exact congrArg Except.error prefix_eq
  have prefixed_eq :
      (Policy.readEntry Value.view (.scalar (.text ("ids:" ++ property.name)), value)).mapError
          ContractFault.unprefixed =
        (Policy.readEntry Value.view (.scalar (.text property.name), value)).mapError
          ContractFault.unprefixed := by
    simp only [Policy.readEntry, Value.view_layer, Value.layer_scalar, kind_eq]
    cases RuleKind.ofKey? property.name with
    | none => rfl
    | some kind => simp only [mapError_bind, items_eq]
  rcases isSpelledBy_iff.mp spelled with rfl | rfl <;>
    rcases isSpelledBy_iff.mp spelled' with rfl | rfl
  · rfl
  · exact prefixed_eq.symm
  · exact prefixed_eq
  · rfl

theorem readEntry_rules {property : Property} {key value value' : Value}
    (spelled : property.isSpelledBy key = true) (rewrite : RulesRewrite property value value') :
    Policy.readEntry Value.view (key, value) = Policy.readEntry Value.view (key, value') := by
  have parts : PartsRewrite RuleRewrite value value' := by
    cases rewrite <;> assumption
  rcases isSpelledBy_iff.mp spelled with rfl | rfl <;>
    simp only [Policy.readEntry, Value.view_layer, Value.layer_scalar] <;>
      split
  · rfl
  · exact parts.readEach_eq _ fun rule _ => by rw [rule.read_eq]
  · rfl
  · exact parts.readEach_eq _ fun rule _ => by rw [rule.read_eq]

/-- Rewritten entries list the same rules, or fail alike. -/
theorem rulesIn_eq {entries entries' : List (Value × Value)}
    (rewrite : EntriesRewrite isContractKey RulesRewrite entries entries') :
    (rulesIn entries).mapError ContractFault.unprefixed =
      (rulesIn entries').mapError ContractFault.unprefixed := by
  cases rewrite with
  | key spelled spelled' _ => exact rulesIn_replace (readEntry_key _ spelled spelled') _ _
  | unread filter_eq => rw [← rulesIn_filter entries, filter_eq, rulesIn_filter entries']
  | value spelled rewritten =>
      exact rulesIn_replace (by rw [readEntry_rules spelled rewritten]) _ _

theorem isText_type_of_isSpelledBy {property : Property} {key : Value}
    (spelled : property.isSpelledBy key = true) : Value.view.isText "@type" key = false := by
  rcases isSpelledBy_iff.mp spelled with rfl | rfl <;> cases property <;> decide

/-- Rewritten entries give the same document type. -/
theorem find?_type_eq {entries entries' : List (Value × Value)}
    (rewrite : EntriesRewrite isContractKey RulesRewrite entries entries') :
    Value.view.find? entries "@type" = Value.view.find? entries' "@type" := by
  cases rewrite with
  | key spelled spelled' _ =>
      simp only [View.find?_append, View.find?_cons, isText_type_of_isSpelledBy spelled,
        isText_type_of_isSpelledBy spelled']
  | unread filter_eq =>
      have typeRead : ∀ key, Value.view.isText "@type" key = true → isContractKey key = true := by
        intro key isType
        rw [isContractKey, isType, Bool.or_true]
      rw [← find?_filter typeRead entries, filter_eq, find?_filter typeRead entries']
  | value spelled _ =>
      simp only [View.find?_append, View.find?_cons, isText_type_of_isSpelledBy spelled,
        Bool.false_eq_true, if_false]

/-- One rewriting changes neither the contract nor, but for a prefix, the fault. -/
theorem DocumentRewrite.read_eq {document document' : Value}
    (rewrite : DocumentRewrite document document') :
    (Policy.read Value.view document).mapError ContractFault.unprefixed =
      (Policy.read Value.view document').mapError ContractFault.unprefixed := by
  rcases rewrite with ⟨entries⟩
  simp only [policy_read_map, mapError_bind, rulesIn_eq entries, find?_type_eq entries]

/-- Documents that differ in presentation only are read as the same contract.
If they are not read, they have the same fault, apart from the prefix of a key
of rules that it names. -/
theorem read_eq_of_isRewritten {document document' : Value}
    (rewritten : IsRewritten document document') :
    (∀ policy, Policy.read Value.view document = .ok policy ↔
        Policy.read Value.view document' = .ok policy) ∧
      (Policy.read Value.view document).mapError ContractFault.unprefixed =
        (Policy.read Value.view document').mapError ContractFault.unprefixed := by
  have outcome_eq : (Policy.read Value.view document).mapError ContractFault.unprefixed =
      (Policy.read Value.view document').mapError ContractFault.unprefixed := by
    induction rewritten with
    | rel _ _ rewrite => exact rewrite.read_eq
    | refl _ => rfl
    | symm _ _ _ ih => exact ih.symm
    | trans _ _ _ _ _ first second => exact first.trans second
  refine ⟨fun policy => ?_, outcome_eq⟩
  rw [← mapError_eq_ok_iff (f := ContractFault.unprefixed), outcome_eq, mapError_eq_ok_iff]

/-- The entries of a rule with one constraint, on the given operand. -/
def sampleRule (operand : Value) : List (Value × Value) :=
  let text (content : String) : Value := .scalar (.text (Text.ofString content))
  [ (text "action", text "idsc:USE"),
    (text "constraint",
      .map
        [ (text "leftOperand", operand),
          (text "operator", text "idsc:LTEQ"),
          (text "rightOperand", text "5") ]) ]

/-- A sample in plain form, and the same sample in full. -/
def plainSample : Value :=
  .map [(.scalar (.text "permission"), .map (sampleRule (.scalar (.text "COUNT"))))]

@[inherit_doc plainSample]
def fullSample : Value :=
  let operand : Value :=
    .list [.map [(.scalar (.text "@id"), .scalar (.text "https://w3id.org/idsa/code/COUNT"))]]
  .map
    [ (.scalar (.text "@context"), .scalar .null),
      (.scalar (.text "ids:permission"), .list [.map (sampleRule operand)]) ]

private theorem plainSample_isRewritten : IsRewritten plainSample fullSample := by
  let text (content : String) : Value := .scalar (.text (Text.ofString content))
  let node (identifier : String) : Value := .list [.map [(text "@id", text identifier)]]
  let withRules (rules : Value) : Value := .map [(text "ids:permission", rules)]
  have prefixed : DocumentRewrite plainSample (withRules (.map (sampleRule (text "COUNT")))) :=
    .map (@EntriesRewrite.key _ _ .permission _ _ _ [] [] (by decide) (by decide) (by simp))
  have inOperand : ∀ {operand operand'}, TermRewrite operand operand' →
      DocumentRewrite (withRules (.map (sampleRule operand)))
        (withRules (.map (sampleRule operand'))) := by
    intro operand operand' rewrite
    have inConstraint : ConstraintRewrite _ _ :=
      @EntriesRewrite.value _ _ .leftOperand (text "leftOperand") _ _ []
        [(text "operator", text "idsc:LTEQ"), (text "rightOperand", text "5")] (by decide)
        (.leftOperand rewrite)
    have inRule : RuleRewrite _ _ :=
      @EntriesRewrite.value _ _ .constraint (text "constraint") _ _
        [(text "action", text "idsc:USE")] [] (by decide)
        (.constraints (.whole inConstraint))
    exact .map (@EntriesRewrite.value _ _ .permission _ _ _ [] [] (by decide)
      (.permission (.whole inRule)))
  have form : TermRewrite (text "COUNT") (node "COUNT") :=
    .form (@FormRewrite.intro "COUNT" _ _ (by simp [identifierForms, text])
      (by simp [identifierForms, node, text]))
  have namespaces : NamespaceRewrite "COUNT" "https://w3id.org/idsa/code/COUNT" :=
    @NamespaceRewrite.intro [] "https://w3id.org/idsa/code/" "COUNT" (by rfl)
      (by rfl) (by decide) (by decide)
  have named : TermRewrite (node "COUNT") (node "https://w3id.org/idsa/code/COUNT") :=
    .renamed (.first (.entry (@EntryRewrite.intro _ _ _ [] [] ⟨namespaces⟩)))
  have listed : DocumentRewrite
      (withRules (.map (sampleRule (node "https://w3id.org/idsa/code/COUNT"))))
      (withRules (.list [.map (sampleRule (node "https://w3id.org/idsa/code/COUNT"))])) :=
    .map (@EntriesRewrite.value _ _ .permission _ _ _ [] [] (by decide) (.permission .listed))
  have extended : DocumentRewrite
      (withRules (.list [.map (sampleRule (node "https://w3id.org/idsa/code/COUNT"))]))
      fullSample :=
    .map (.unread (by rfl))
  exact .trans _ _ _ (.rel _ _ prefixed) <| .trans _ _ _ (.rel _ _ (inOperand form)) <|
    .trans _ _ _ (.rel _ _ (inOperand named)) <| .trans _ _ _ (.rel _ _ listed)
      (.rel _ _ extended)

theorem plainSample_read_eq :
    IsRewritten plainSample fullSample ∧
      (∀ policy, Policy.read Value.view plainSample = .ok policy ↔
        Policy.read Value.view fullSample = .ok policy) ∧
      (Policy.read Value.view plainSample).mapError ContractFault.unprefixed =
        (Policy.read Value.view fullSample).mapError ContractFault.unprefixed :=
  ⟨plainSample_isRewritten, read_eq_of_isRewritten plainSample_isRewritten⟩

end UsageContracts.Presentation
