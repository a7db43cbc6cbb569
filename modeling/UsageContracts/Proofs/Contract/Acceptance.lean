import UsageContracts.Proofs.Contract.Grammar
import UsageContracts.Proofs.Contract.Reading
import UsageContracts.Proofs.Document.Writable

/-!
# What is read as a contract

Reading accepts exactly the values that are contracts by the grammar, and of any
other value it reports the first fault.  The specification of each reader is put
together from those of its steps, in their order.
-/

namespace UsageContracts.Grammar

open Outcome
open Value (IsWritable EntriesAreWritable)

/-! ## Reading lists of parts -/

/-- If each item is read as specified, the items are read if all of them are
accepted, and else the fault of the first other one is reported. -/
theorem readEach_isSpecified {α β ε : Type} {read : Nat → α → Except ε β}
    {accepted : α → Prop} {faulty : Nat → α → ε → Prop} (start : Nat) (items : List α)
    (each : ∀ index, ∀ item ∈ items,
      IsSpecified (read index item) (accepted item) (faulty index item)) :
    IsSpecified (readEach read start items) (∀ item ∈ items, accepted item) fun fault =>
      ∃ before item after, items = before ++ item :: after ∧
        (∀ earlier ∈ before, accepted earlier) ∧ faulty (start + before.length) item fault := by
  induction items generalizing start with
  | nil => exact (IsSpecified.ok []).congr (by simp) (by simp)
  | cons item items ih =>
      have itemSpecified := each start item List.mem_cons_self
      have itemsSpecified := ih (start + 1) fun index other member =>
        each index other (List.mem_cons_of_mem item member)
      refine (itemSpecified.bind fun result _ =>
        itemsSpecified.bind_ok fun results => ⟨result :: results, rfl⟩).congr (by simp)
          fun fault => ?_
      constructor
      · rintro (inItem | ⟨itemAccepted, before, part, after, rfl, beforeAccepted, inPart⟩)
        · exact ⟨[], item, items, rfl, by simp, inItem⟩
        · refine ⟨item :: before, part, after, rfl, ?_, ?_⟩
          · simpa [itemAccepted] using beforeAccepted
          · rwa [List.length_cons, Nat.add_comm before.length 1, ← Nat.add_assoc]
      · rintro ⟨before, part, after, split, beforeAccepted, inPart⟩
        rcases before with _ | ⟨first, before⟩
        · obtain ⟨rfl, rfl⟩ : item = part ∧ items = after := by simpa using split
          exact .inl inPart
        · obtain ⟨rfl, rfl⟩ : item = first ∧ items = before ++ part :: after := by
            simpa using split
          refine .inr ⟨beforeAccepted item List.mem_cons_self, before, part, after, rfl,
            fun earlier member => beforeAccepted earlier (List.mem_cons_of_mem item member), ?_⟩
          rwa [List.length_cons, Nat.add_comm before.length 1, ← Nat.add_assoc] at inPart

theorem itemsOf_eq_ok {value : Value} (name : Text) (container : IsContainer value) :
    Value.view.itemsOf name (some value) = .ok (parts value) := by
  cases value with
  | scalar content =>
      cases content with
      | null => rfl
      | _ => exact container.elim
  | map | list => rfl
  | tuple | set => exact container.elim

theorem itemsOf_eq_error {value : Value} (name : Text) (container : ¬ IsContainer value) :
    Value.view.itemsOf name (some value) = .error (.notAList name) := by
  cases value with
  | scalar content =>
      cases content with
      | null => exact (container trivial).elim
      | _ => rfl
  | map | list => exact (container trivial).elim
  | tuple | set => rfl

theorem parts_eq_nil {value : Value} (container : ¬ IsContainer value) : parts value = [] := by
  cases value with
  | map | list => exact (container trivial).elim
  | scalar | tuple | set => rfl

theorem isWritable_of_property? {entries : List (Value × Value)} {name : Text} {value : Value}
    (writable : EntriesAreWritable entries) (found : property? entries name = some value) :
    value.IsWritable := by
  rcases Option.or_eq_some_iff.mp found with bare | ⟨_, prefixed⟩
  · exact Value.isWritable_of_find? writable bare
  · exact Value.isWritable_of_find? writable prefixed

theorem isWritable_of_mem_parts {value part : Value} (writable : value.IsWritable)
    (member : part ∈ parts value) : part.IsWritable := by
  cases value with
  | map entries =>
      obtain rfl : part = .map entries := by simpa [parts] using member
      exact writable
  | list items => exact Value.areWritable_iff.mp writable part member
  | scalar | tuple | set => simp [parts] at member

/-- The parts that a value stands for are read as they are specified. -/
theorem readParts_isSpecified {β : Type} {read : Nat → Value → Except ContractFault β}
    {accepted : Value → Prop} {faulty : Nat → Value → ContractFault → Prop} (name : Text)
    {value : Value} (writable : value.IsWritable)
    (each : ∀ index part, IsWritable part →
      IsSpecified (read index part) (accepted part) (faulty index part)) :
    IsSpecified (Value.view.itemsOf name (some value) >>= readEach read 0)
      (HoldsParts accepted value) (FirstPartFault name accepted faulty value) := by
  by_cases container : IsContainer value
  · rw [itemsOf_eq_ok name container, ok_bind]
    have specified := readEach_isSpecified 0 (parts value) fun index part member =>
      each index part (isWritable_of_mem_parts writable member)
    apply specified.congr (by simp [HoldsParts, container])
    intro fault
    constructor
    · rintro ⟨before, part, after, split, beforeAccepted, inPart⟩
      exact .inPart split beforeAccepted (by simpa using inPart)
    · rintro (noContainer | ⟨split, beforeAccepted, inPart⟩)
      · exact (noContainer container).elim
      · exact ⟨_, _, _, split, beforeAccepted, by simpa using inPart⟩
  · rw [itemsOf_eq_error name container, error_bind]
    apply (IsSpecified.error _).congr (by simp [HoldsParts, container])
    intro fault
    constructor
    · rintro rfl
      exact .notAList container
    · rintro (_ | ⟨split, _, _⟩)
      · rfl
      · simp [parts_eq_nil container] at split

/-- A property that may be missing is read as the parts it stands for. -/
theorem readProperty_isSpecified {β : Type} {read : Nat → Value → Except ContractFault β}
    {accepted : Value → Prop} {faulty : Nat → Value → ContractFault → Prop}
    {entries : List (Value × Value)} (name : Text) (writable : EntriesAreWritable entries)
    (each : ∀ index part, IsWritable part →
      IsSpecified (read index part) (accepted part) (faulty index part)) :
    IsSpecified (Value.view.itemsOf name (property? entries name) >>= readEach read 0)
      (HasParts entries name accepted) (FirstPropertyFault entries name accepted faulty) := by
  cases found : property? entries name with
  | none =>
      refine (IsSpecified.ok []).congr (by simp [HasParts, found]) fun fault => ⟨False.elim, ?_⟩
      rintro ⟨other, -⟩
      simp [found] at other
  | some value =>
      have specified := readParts_isSpecified name
        (isWritable_of_property? writable found) each
      refine specified.congr (by simp [HasParts, found]) fun fault => ⟨.intro found, ?_⟩
      rintro ⟨other, first⟩
      obtain rfl := Option.some.inj (found.symm.trans other)
      exact first

/-! ## Reading identifiers and right operands -/

theorem unlessNull?_eq_some_iff {value kept : Value} :
    Value.view.unlessNull? value = some kept ↔ value = kept ∧ value ≠ .null := by
  cases value with
  | scalar content => cases content <;> simp [View.unlessNull?, Layer.isNull, Value.null]
  | _ => simp [View.unlessNull?, Layer.isNull, Value.null]

/-- The value that names something, given the value itself or the first item of
a list. -/
private def naming? : Value → Option Value
  | .map entries => (Value.view.find? entries "@id").bind Value.view.unlessNull?
  | other => Value.view.unlessNull? other

private theorem namingValue?_list (items : List Value) :
    Value.view.namingValue? (.list items) = items.head?.bind naming? := by
  rcases items with _ | ⟨first, rest⟩
  · rfl
  · cases first <;> rfl

private theorem namingValue?_eq_naming? {value : Value} (notList : ∀ items, value ≠ .list items) :
    Value.view.namingValue? value = naming? value := by
  cases value with
  | list items => exact (notList items rfl).elim
  | _ => rfl

private theorem naming?_isSome_iff (value : Value) :
    (naming? value).isSome ↔ NamesSomething value := by
  cases value with
  | map entries =>
      simp only [naming?, NamesSomething, Option.isSome_iff_exists, Option.bind_eq_some_iff,
        unlessNull?_eq_some_iff]
      constructor
      · rintro ⟨_, naming, found, -, notNull⟩
        exact ⟨naming, found, notNull⟩
      · rintro ⟨naming, found, notNull⟩
        exact ⟨naming, naming, found, rfl, notNull⟩
  | scalar content =>
      cases content <;> simp [naming?, NamesSomething, View.unlessNull?, Layer.isNull]
  | _ => simp [naming?, NamesSomething, View.unlessNull?, Layer.isNull]

private theorem isWritable_of_naming? {value naming : Value} (writable : value.IsWritable)
    (found : naming? value = some naming) : naming.IsWritable := by
  cases value with
  | map entries =>
      rcases Option.bind_eq_some_iff.mp found with ⟨kept, kept_eq, unlessNull⟩
      rcases unlessNull?_eq_some_iff.mp unlessNull with ⟨rfl, -⟩
      exact Value.isWritable_of_find? writable kept_eq
  | _ =>
      rcases unlessNull?_eq_some_iff.mp found with ⟨rfl, -⟩
      exact writable

theorem namingValue?_isSome_iff (value : Value) :
    (Value.view.namingValue? value).isSome ↔ GivesIdentifier value := by
  cases value with
  | list items =>
      rw [namingValue?_list]
      cases items with
      | nil => simp [GivesIdentifier]
      | cons first rest => exact naming?_isSome_iff first
  | _ =>
      rw [namingValue?_eq_naming? (by simp)]
      exact naming?_isSome_iff _

theorem isWritable_of_namingValue? {value naming : Value} (writable : value.IsWritable)
    (found : Value.view.namingValue? value = some naming) : naming.IsWritable := by
  cases value with
  | list items =>
      rw [namingValue?_list] at found
      rcases Option.bind_eq_some_iff.mp found with ⟨first, first_eq, firstFound⟩
      have member := List.mem_of_head? first_eq
      exact isWritable_of_naming? (Value.areWritable_iff.mp writable first member) firstFound
  | _ =>
      rw [namingValue?_eq_naming? (by simp)] at found
      exact isWritable_of_naming? writable found

theorem exists_text {value : Value} (writable : value.IsWritable) :
    ∃ text, Value.view.text value = .ok text := by
  rcases Value.exists_display writable with ⟨text, text_eq⟩
  exact ⟨text, by rw [View.text, text_eq, mapError_ok]⟩

/-- Reading an identifier does not fail; it finds one where there is one. -/
theorem exists_identifierOf {entries : List (Value × Value)} (name : Text)
    (writable : EntriesAreWritable entries) :
    ∃ identifier?, Value.view.identifierOf (property? entries name) = .ok identifier? ∧
      (identifier?.isSome ↔ HasIdentifier entries name) := by
  unfold HasIdentifier View.identifierOf
  cases found : property? entries name with
  | none => exact ⟨none, rfl, by simp⟩
  | some value =>
      have gives_iff := namingValue?_isSome_iff value
      cases naming_eq : Value.view.namingValue? value with
      | none => exact ⟨none, by simp [naming_eq], by simpa [naming_eq] using gives_iff⟩
      | some naming =>
          obtain ⟨text, text_eq⟩ := exists_text <|
            isWritable_of_namingValue? (isWritable_of_property? writable found) naming_eq
          exact ⟨some text, by simp [naming_eq, text_eq], by simpa [naming_eq] using gives_iff⟩

/-- An identifier that is demanded is read, or reported as missing. -/
theorem require_identifierOf_isSpecified {entries : List (Value × Value)} (name : Text)
    (required : RequiredProperty) (writable : EntriesAreWritable entries) :
    IsSpecified (Value.view.identifierOf (property? entries name) >>= require required)
      (HasIdentifier entries name)
      fun fault => ¬ HasIdentifier entries name ∧ fault = .missing required := by
  rcases exists_identifierOf name writable with ⟨identifier?, identifier_eq, gives_iff⟩
  rw [identifier_eq, ok_bind, ← gives_iff]
  cases identifier? with
  | none => exact (IsSpecified.error _).congr (by simp) (by simp)
  | some identifier => exact (IsSpecified.ok identifier).congr (by simp) (by simp)

theorem exists_datatypeOf {entries : List (Value × Value)} (writable : EntriesAreWritable entries) :
    ∃ datatype, TypedValue.datatypeOf Value.view (Value.view.find? entries "@type") =
      .ok datatype := by
  cases found : Value.view.find? entries "@type" with
  | none => exact ⟨_, rfl⟩
  | some type =>
      have identified : ∃ identifier, Value.view.identifier type = .ok identifier := by
        unfold View.identifier
        split
        · exact Value.exists_display (Value.isWritable_of_find? writable found)
        · exact ⟨[], rfl⟩
      rcases identified with ⟨identifier, identifier_eq⟩
      exact ⟨_, by rw [TypedValue.datatypeOf, identifier_eq]; rfl⟩

/-- The text of a map is read if there is one, and else reported as missing. -/
private theorem typedValue_read_map_isSpecified {entries : List (Value × Value)}
    (writable : EntriesAreWritable entries) :
    IsSpecified (TypedValue.read Value.view (.map entries)) (HoldsText (.map entries))
      fun fault => ¬ HoldsText (.map entries) ∧ fault = .missingValue := by
  rw [TypedValue.read_map, TypedValue.ofEntries]
  cases contentFound : Value.view.find? entries "@value" with
  | none =>
      exact (IsSpecified.error _).congr (by simp [HoldsText, contentFound])
        (by simp [HoldsText, contentFound])
  | some content =>
      rcases exists_text (Value.isWritable_of_find? writable contentFound) with ⟨text, text_eq⟩
      rcases exists_datatypeOf writable with ⟨datatype, datatype_eq⟩
      simp only [text_eq, datatype_eq, ok_bind]
      exact (IsSpecified.ok _).congr (by simp [HoldsText, contentFound])
        (by simp [HoldsText, contentFound])

/-- A value that is read as its own display form is read. -/
private theorem typedValue_read_text_isSpecified {value content : Value}
    (writable : content.IsWritable) (gives : GivesText value)
    (read_eq : TypedValue.read Value.view value = do
      let text ← Value.view.text content
      return { text }) :
    IsSpecified (TypedValue.read Value.view value) (GivesText value)
      fun fault => ¬ GivesText value ∧ fault = .missingValue := by
  rcases exists_text writable with ⟨text, text_eq⟩
  rw [read_eq, text_eq, ok_bind]
  exact (IsSpecified.ok _).congr (by simp [gives]) (by simp [gives])

/-- The value of a constraint is read if its right operand gives a text, and
else reported as missing. -/
theorem typedValue_read_isSpecified {value : Value} (writable : value.IsWritable) :
    IsSpecified (TypedValue.read Value.view value) (GivesText value)
      fun fault => ¬ GivesText value ∧ fault = .missingValue := by
  cases value with
  | list items =>
      rcases items with _ | ⟨first, rest⟩
      · exact (IsSpecified.error _).congr (by simp [GivesText]) (by simp [GivesText])
      · have firstWritable : first.IsWritable := writable.1
        cases first with
        | map entries => exact typedValue_read_map_isSpecified firstWritable
        | _ =>
            exact typedValue_read_text_isSpecified firstWritable (by simp [GivesText, HoldsText])
              rfl
  | map entries => exact typedValue_read_map_isSpecified writable
  | _ => exact typedValue_read_text_isSpecified writable (by simp [GivesText, HoldsText]) rfl

/-- A right operand is read if there is one that gives a text; it is reported as
missing, or else its text is. -/
theorem readRight_isSpecified {entries : List (Value × Value)}
    (writable : EntriesAreWritable entries) :
    IsSpecified
      (require .rightOperand ((property? entries "rightOperand").bind Value.view.unlessNull?) >>=
        TypedValue.read Value.view)
      (∃ right, property? entries "rightOperand" = some right ∧ right ≠ .null ∧ GivesText right)
      fun fault =>
        (¬ IsPresent entries "rightOperand" ∧ fault = .missing .rightOperand) ∨
          ∃ right, property? entries "rightOperand" = some right ∧ right ≠ .null ∧
            ¬ GivesText right ∧ fault = .missingValue := by
  unfold IsPresent
  cases found : property? entries "rightOperand" with
  | none => exact (IsSpecified.error _).congr (by simp) (by simp)
  | some right =>
      by_cases null : right = .null
      · subst right
        exact (IsSpecified.error _).congr (by simp) (by simp)
      · have kept_eq : Value.view.unlessNull? right = some right :=
          unlessNull?_eq_some_iff.mpr ⟨rfl, null⟩
        have specified := typedValue_read_isSpecified (isWritable_of_property? writable found)
        simpa [kept_eq, require, null] using specified

theorem isWritable_of_firstOf? {value first : Value} (writable : value.IsWritable)
    (found : Value.view.firstOf? value = some first) : first.IsWritable := by
  cases value with
  | list items =>
      exact Value.areWritable_iff.mp writable first (List.mem_of_head? found)
  | _ =>
      obtain rfl := Option.some.inj found
      exact writable

/-- Reading a literal does not fail. -/
theorem exists_literalOf {entries : List (Value × Value)} (name : Text)
    (writable : EntriesAreWritable entries) :
    ∃ text, Value.view.literalOf (property? entries name) = .ok text := by
  cases found : (property? entries name).bind Value.view.firstOf? with
  | none => exact ⟨[], by simp only [View.literalOf, found]⟩
  | some first =>
      rcases Option.bind_eq_some_iff.mp found with ⟨value, value_eq, first_eq⟩
      have firstWritable :=
        isWritable_of_firstOf? (isWritable_of_property? writable value_eq) first_eq
      cases first with
      | map inner =>
          cases content_eq : Value.view.find? inner "@value" with
          | none => exact ⟨[], by simp [View.literalOf, found, content_eq]⟩
          | some content =>
              obtain ⟨text, text_eq⟩ :=
                exists_text (Value.isWritable_of_find? firstWritable content_eq)
              exact ⟨text, by simp [View.literalOf, found, content_eq, text_eq]⟩
      | _ =>
          rcases exists_text firstWritable with ⟨text, text_eq⟩
          exact ⟨text, by simp [View.literalOf, found, text_eq]⟩

/-! ## Reading the parts of a contract -/

/-- A part that has to be a map is read as its entries are specified. -/
theorem readMap_isSpecified {β : Type} (part : Part) {value : Value} (writable : value.IsWritable)
    {next : List (Value × Value) → Except ContractFault β}
    {accepted : List (Value × Value) → Prop}
    {faulty : List (Value × Value) → ContractFault → Prop}
    (onMap : ∀ entries, EntriesAreWritable entries →
      IsSpecified (next entries) (accepted entries) (faulty entries)) :
    IsSpecified (Value.view.entriesOf part value >>= next) (IsMapOf accepted value)
      (FirstMapFault part faulty value) := by
  by_cases map : ∃ entries, value = .map entries
  · rcases map with ⟨entries, rfl⟩
    rw [Value.entriesOf_map, ok_bind]
    refine (onMap entries writable).congr ⟨.map, ?_⟩ fun fault => ⟨.inMap, ?_⟩
    · rintro ⟨entriesAccepted⟩
      exact entriesAccepted
    · rintro (notAMap | inMap)
      · exact (notAMap entries rfl).elim
      · exact inMap
  · have notAMap : ∀ entries, value ≠ .map entries := fun entries equal => map ⟨entries, equal⟩
    have read_eq : (Value.view.entriesOf part value >>= next) = .error (.notAMap part) := by
      cases value with
      | map entries => exact (notAMap entries rfl).elim
      | _ => rfl
    rw [read_eq]
    refine (IsSpecified.error _).congr ⟨False.elim, ?_⟩ fun fault => ⟨?_, ?_⟩
    · rintro ⟨_⟩
      exact notAMap _ rfl
    · rintro rfl
      exact .notAMap notAMap
    · rintro (_ | _)
      · rfl
      · exact (notAMap _ rfl).elim

theorem constraint_read_isSpecified {value : Value} (writable : value.IsWritable) :
    IsSpecified (Constraint.read Value.view value) (IsConstraint value)
      (FirstConstraintFault value) := by
  apply readMap_isSpecified .constraint writable
  intro entries entriesWritable
  obtain ⟨informationPoint, informationPoint_eq, -⟩ :=
    exists_identifierOf "pipEndpoint" entriesWritable
  have specified :=
    (require_identifierOf_isSpecified "leftOperand" .leftOperand entriesWritable).bind
      fun operand _ =>
        (require_identifierOf_isSpecified "operator" .operator entriesWritable).bind
          fun operator _ => (readRight_isSpecified entriesWritable).bind_ok fun typedValue =>
            ⟨{ operand := Vocabulary.ofIdentifier operand
               operator := Vocabulary.ofIdentifier operator
               value := typedValue
               informationPoint : Constraint }, rfl⟩
  simp only [bind_assoc] at specified
  simp only [informationPoint_eq, ok_bind]
  refine specified.congr ⟨?_, ?_⟩ fun fault => ⟨?_, ?_⟩
  · rintro ⟨operand, operator, right⟩
    exact ⟨operand, operator, right⟩
  · rintro ⟨operand, operator, right⟩
    exact ⟨operand, operator, right⟩
  · rintro (⟨noOperand, rfl⟩ | ⟨operand, ⟨noOperator, rfl⟩ | ⟨operator,
      ⟨absent, rfl⟩ | ⟨right, found, notNull, noText, rfl⟩⟩⟩)
    · exact .leftOperand noOperand
    · exact .operator operand noOperator
    · exact .rightOperand operand operator absent
    · exact .missingValue operand operator found notNull noText
  · intro first
    cases first with
    | leftOperand noOperand => exact .inl ⟨noOperand, rfl⟩
    | operator operand noOperator => exact .inr ⟨operand, .inl ⟨noOperator, rfl⟩⟩
    | rightOperand operand operator absent =>
        exact .inr ⟨operand, .inr ⟨operator, .inl ⟨absent, rfl⟩⟩⟩
    | missingValue operand operator found notNull noText =>
        exact .inr ⟨operand, .inr ⟨operator, .inr ⟨_, found, notNull, noText, rfl⟩⟩⟩

/-- The constraints of a rule or a duty are read as they are specified. -/
theorem readAll_isSpecified {entries : List (Value × Value)}
    (writable : EntriesAreWritable entries) :
    IsSpecified (Constraint.readAll Value.view entries) (HasConstraints entries)
      (FirstFaultInConstraints entries) :=
  readProperty_isSpecified "constraint" writable fun _ _ partWritable =>
    constraint_read_isSpecified partWritable

theorem duty_read_isSpecified {value : Value} (writable : value.IsWritable) :
    IsSpecified (Duty.read Value.view value) (IsDuty value) (FirstDutyFault value) := by
  apply readMap_isSpecified .duty writable
  intro entries entriesWritable
  have specified := (require_identifierOf_isSpecified "action" .action entriesWritable).bind
    fun action _ => (readAll_isSpecified entriesWritable).bind_ok fun constraints =>
      ⟨{ action := Vocabulary.ofIdentifier action, constraints : Duty }, rfl⟩
  simp only [bind_assoc] at specified
  refine specified.congr ⟨?_, ?_⟩ fun fault => ⟨?_, ?_⟩
  · rintro ⟨action, constraints⟩
    exact ⟨action, constraints⟩
  · rintro ⟨action, constraints⟩
    exact ⟨action, constraints⟩
  · rintro (⟨noAction, rfl⟩ | ⟨action, inConstraints⟩)
    · exact .action noAction
    · exact .constraints action inConstraints
  · intro first
    cases first with
    | action noAction => exact .inl ⟨noAction, rfl⟩
    | constraints action inConstraints => exact .inr ⟨action, inConstraints⟩

/-- Whatever is wrong with the constraints of a duty is blamed on the duty. -/
theorem placeInDuty_eq_of_firstDutyFault {duty : Value} {fault : ContractFault} (index : Nat)
    (first : FirstDutyFault duty fault) : fault.placeInDuty index = .inDuty index fault := by
  rcases first with _ | ⟨⟨noAction⟩ | ⟨_, ⟨found, ⟨noContainer⟩ | ⟨_, _, inPart⟩⟩⟩⟩
  · rfl
  · rfl
  · rfl
  · rcases inPart with _ | ⟨⟨⟩⟩ <;> rfl

theorem duties_read_isSpecified {entries : List (Value × Value)}
    (writable : EntriesAreWritable entries) :
    IsSpecified
      (Value.view.itemsOf "postDuty" (property? entries "postDuty") >>= readEach
        (fun index item =>
          (Duty.read Value.view item).mapError (ContractFault.placeInDuty index)) 0)
      (HasParts entries "postDuty" IsDuty)
      (FirstPropertyFault entries "postDuty" IsDuty FaultInDuty) := by
  apply readProperty_isSpecified "postDuty" writable
  intro index part partWritable
  refine ((duty_read_isSpecified partWritable).mapError _).congr Iff.rfl fun fault => ⟨?_, ?_⟩
  · rintro ⟨cause, first, rfl⟩
    rw [placeInDuty_eq_of_firstDutyFault index first]
    exact ⟨first⟩
  · rintro ⟨first⟩
    exact ⟨_, first, placeInDuty_eq_of_firstDutyFault index first⟩

theorem rule_read_isSpecified (kind : RuleKind) {value : Value} (writable : value.IsWritable) :
    IsSpecified (Rule.read Value.view kind value) (IsRule value) (FirstRuleFault value) := by
  apply readMap_isSpecified .rule writable
  intro entries entriesWritable
  rcases exists_identifierOf "action" entriesWritable with ⟨action, action_eq, -⟩
  rcases exists_literalOf "title" entriesWritable with ⟨title, title_eq⟩
  rcases exists_literalOf "description" entriesWritable with ⟨description, description_eq⟩
  have specified := (readAll_isSpecified entriesWritable).bind fun constraints _ =>
    (duties_read_isSpecified entriesWritable).bind_ok fun duties =>
      ⟨{ kind, action := Rule.actionOf action, constraints, duties, title, description : Rule },
        rfl⟩
  simp only [bind_assoc] at specified
  simp only [action_eq, title_eq, description_eq, ok_bind]
  refine specified.congr ⟨?_, ?_⟩ fun fault => ⟨?_, ?_⟩
  · rintro ⟨constraints, duties⟩
    exact ⟨constraints, duties⟩
  · rintro ⟨constraints, duties⟩
    exact ⟨constraints, duties⟩
  · rintro (inConstraints | ⟨constraints, inDuties⟩)
    · exact .constraints inConstraints
    · exact .duties constraints inDuties
  · intro first
    cases first with
    | constraints inConstraints => exact .inl inConstraints
    | duties constraints inDuties => exact .inr ⟨constraints, inDuties⟩

/-! ## Reading contracts -/

theorem ofKey?_eq_some_iff {key : Text} {kind : RuleKind} :
    RuleKind.ofKey? key = some kind ↔ IsRuleKey key kind := by
  constructor
  · intro kind_eq
    unfold RuleKind.ofKey? at kind_eq
    split at kind_eq
    · next isKey =>
        cases kind_eq
        rcases isKey with rfl | rfl
        · exact .permission
        · exact .prefixedPermission
    · split at kind_eq
      · next isKey =>
          cases kind_eq
          rcases isKey with rfl | rfl
          · exact .prohibition
          · exact .prefixedProhibition
      · cases kind_eq
  · rintro (_ | _ | _ | _) <;> decide

theorem readEntry_isSpecified (entry : Value × Value) (writable : entry.2.IsWritable) :
    IsSpecified (Policy.readEntry Value.view entry) (IsRuleEntry entry)
      (FirstRuleListFault entry) := by
  rcases entry with ⟨key, value⟩
  by_cases isRuleKey : ∃ text kind, key = .scalar (.text text) ∧ IsRuleKey text kind
  · rcases isRuleKey with ⟨text, kind, rfl, isKey⟩
    have kind_eq := ofKey?_eq_some_iff.mpr isKey
    have ruleSpecified : ∀ index part, IsWritable part → IsSpecified
        ((Rule.read Value.view kind part).mapError (ContractFault.inRule kind index))
        (IsRule part) (FaultInRule kind index part) := by
      intro index part partWritable
      refine ((rule_read_isSpecified kind partWritable).mapError _).congr Iff.rfl
        fun fault => ⟨?_, ?_⟩
      · rintro ⟨cause, first, rfl⟩
        exact ⟨first⟩
      · rintro ⟨first⟩
        exact ⟨_, first, rfl⟩
    have specified := readParts_isSpecified text writable ruleSpecified
    simp only [Policy.readEntry, Value.view_layer, Value.layer_scalar, kind_eq]
    refine specified.congr ⟨?_, ?_⟩ fun fault => ⟨.intro rfl isKey, ?_⟩
    · intro holds other otherKind text_eq otherIsKey
      exact holds
    · intro isEntry
      exact isEntry text kind rfl isKey
    · rintro ⟨text_eq, otherIsKey, first⟩
      cases text_eq
      obtain rfl : kind = _ := Option.some.inj
        (kind_eq.symm.trans (ofKey?_eq_some_iff.mpr otherIsKey))
      exact first
  · have read_eq : Policy.readEntry Value.view (key, value) = .ok [] := by
      cases key with
      | scalar content =>
          cases content with
          | text text =>
              have kind_eq : RuleKind.ofKey? text = none := by
                rw [Option.eq_none_iff_forall_ne_some]
                intro kind found
                exact isRuleKey ⟨text, kind, rfl, ofKey?_eq_some_iff.mp found⟩
              simp only [Policy.readEntry, Value.view_layer, Value.layer_scalar, kind_eq]
          | _ => rfl
      | _ => rfl
    rw [read_eq]
    refine (IsSpecified.ok _).congr ⟨?_, fun _ => trivial⟩ fun fault => ⟨False.elim, ?_⟩
    · intro _ text kind key_eq isKey
      exact (isRuleKey ⟨text, kind, key_eq, isKey⟩).elim
    · rintro ⟨key_eq, isKey, -⟩
      exact isRuleKey ⟨_, _, key_eq, isKey⟩

theorem policy_read_isSpecified {value : Value} (writable : value.IsWritable) :
    IsSpecified (Policy.read Value.view value) (IsContract value) (FirstFault value) := by
  apply readMap_isSpecified .policy writable
  intro entries entriesWritable
  have entriesSpecified := readEach_isSpecified 0 entries fun _ entry member =>
    readEntry_isSpecified entry (Value.entriesAreWritable_iff.mp entriesWritable entry member).2
  refine (entriesSpecified.bind_ok fun rules => ?_).congr Iff.rfl fun fault => ⟨?_, ?_⟩
  · -- Only the document type is left to read, and it has a display form.
    split
    · exact ⟨_, rfl⟩
    · next type found =>
        obtain ⟨documentType, type_eq⟩ := exists_text (Value.isWritable_of_find? entriesWritable
          (Option.filter_eq_some_iff.mp found).1)
        exact ⟨_, by rw [type_eq, ok_bind]; rfl⟩
  · rintro ⟨before, entry, after, split, beforeAccepted, first⟩
    exact .inEntry split beforeAccepted first
  · rintro ⟨split, beforeAccepted, first⟩
    exact ⟨_, _, _, split, beforeAccepted, first⟩

/-! ## Acceptance -/

/-- Of the values that can be written, exactly the contracts are read.  Any
other value is rejected with its first fault, whose wording begins with the
places of the rule and the duty that have it. -/
theorem read_succeeds_iff_and_fails_iff {value : Value} (writable : value.IsWritable) :
    ((∃ policy, Policy.read Value.view value = .ok policy) ↔ IsContract value) ∧
      (∀ fault, Policy.read Value.view value = .error fault ↔ FirstFault value fault) ∧
      (∀ kind index cause, (ContractFault.inRule kind index cause).message =
        "Error parsing " ++ kind.name ++ " " ++ Text.decimal index ++ ": " ++ cause.message) ∧
      ∀ index cause, (ContractFault.inDuty index cause).message =
        "duty " ++ Text.decimal index ++ ": " ++ cause.message := by
  have specified := policy_read_isSpecified writable
  exact ⟨specified.accepted_iff, specified.faulty_iff, fun _ _ _ => rfl, fun _ _ => rfl⟩

/-- A value with three faults: the second permission has a duty whose second
constraint has no operator, another permission is missing, and the prohibitions
are no list. -/
def faultyContract : Value :=
  let text (content : String) : Value := .scalar (.text (Text.ofString content))
  let constraint : Value :=
    .map
      [ (text "leftOperand", .map [(text "@id", text "idsc:COUNT")]),
        (text "operator", .list [text "idsc:LTEQ"]),
        (text "ids:rightOperand", text "5") ]
  let incomplete : Value := .map [(text "ids:leftOperand", text "idsc:COUNT")]
  let duty : Value :=
    .map [(text "action", text "idsc:LOG"), (text "constraint", .list [constraint, incomplete])]
  .map
    [ (text "ids:permission",
        .list [.map [(text "constraint", constraint)], .map [(text "postDuty", duty)], text ""]),
      (text "prohibition", text "none") ]

private theorem faultyContract_isWritable : faultyContract.IsWritable := by
  simp [faultyContract, Value.IsWritable, Value.AreWritable, Value.EntriesAreWritable,
    Value.EntryIsWritable, Scalar.IsWritable]

theorem faultyContract_firstFault :
    faultyContract.IsWritable ∧ ¬ IsContract faultyContract ∧
      FirstFault faultyContract (.inRule .permission 1 (.inDuty 0 (.missing .operator))) := by
  have read_eq : Policy.read Value.view faultyContract =
      .error (.inRule .permission 1 (.inDuty 0 (.missing .operator))) := by
    rfl
  have ⟨accepted_iff, faulty_iff, _⟩ := read_succeeds_iff_and_fails_iff faultyContract_isWritable
  refine ⟨faultyContract_isWritable, ?_, (faulty_iff _).mp read_eq⟩
  rw [← accepted_iff, read_eq]
  rintro ⟨policy, read_ok⟩
  cases read_ok

end UsageContracts.Grammar
