import UsageContracts.Proofs.Contract.Reading
import UsageContracts.Proofs.Document.Agreement

/-!
# Reading through views that agree

A contract is read through a view of its document, and through views that agree
it is read as the same contract, or with the same fault.
-/

namespace UsageContracts

namespace Outcome

variable {ε α β γ : Type}

/-- Outcomes with related values or with the same fault. -/
inductive Related (related : α → β → Prop) : Except ε α → Except ε β → Prop
  | ok {value : α} {value' : β} : related value value' → Related related (.ok value) (.ok value')
  | error {fault : ε} : Related related (.error fault) (.error fault)

/-- Steps that go on alike from related values have the same outcome. -/
theorem Related.bind_eq {related : α → β → Prop} {first : Except ε α} {first' : Except ε β}
    (are : Related related first first') {next : α → Except ε γ} {next' : β → Except ε γ}
    (next_eq : ∀ {value value'}, related value value' → next value = next' value') :
    (first >>= next) = (first' >>= next') := by
  cases are with
  | ok values => exact next_eq values
  | error => rfl

end Outcome

/-! ## Optional values -/

theorem rel_or {α β : Type} {related : α → β → Prop} {first? second? : Option α}
    {first'? second'? : Option β} (first : Option.Rel related first? first'?)
    (second : Option.Rel related second? second'?) :
    Option.Rel related (first?.or second?) (first'?.or second'?) := by
  cases first with
  | some values => exact .some values
  | none => exact second

theorem rel_bind {α β γ δ : Type} {related : α → β → Prop} {related' : γ → δ → Prop}
    {value? : Option α} {value'? : Option β} (are : Option.Rel related value? value'?)
    {next : α → Option γ} {next' : β → Option δ}
    (nextAre : ∀ {value value'}, related value value' →
      Option.Rel related' (next value) (next' value')) :
    Option.Rel related' (value?.bind next) (value'?.bind next') := by
  cases are with
  | some values => exact nextAre values
  | none => exact .none

section

variable {α β : Type} {left : View α} {right : View β} {related : α → β → Prop}

namespace View.Agrees

variable {value : α} {value' : β} {entries : List (α × α)} {entries' : List (β × β)}
  {value? : Option α} {value'? : Option β}

/-! ## Properties and their values -/

theorem property?_rel (agrees : left.Agrees right related)
    (are : RelatedEntries related entries entries') (name : Text) :
    Option.Rel related (left.property? entries name) (right.property? entries' name) :=
  rel_or (agrees.find?_rel are name) (agrees.find?_rel are ("ids:" ++ name))

theorem text_eq (agrees : left.Agrees right related) (are : related value value') :
    left.text value = right.text value' := by
  rw [View.text, View.text, agrees.display_eq are]

theorem identifier_eq (agrees : left.Agrees right related) (are : related value value') :
    left.identifier value = right.identifier value' := by
  rw [View.identifier, View.identifier, agrees.isTruthy_eq are, agrees.display_eq are]

theorem entriesOf_related (agrees : left.Agrees right related) (part : Part)
    (are : related value value') :
    Outcome.Related (RelatedEntries related) (left.entriesOf part value)
      (right.entriesOf part value') := by
  have layers := agrees.layer are
  unfold View.entriesOf
  generalize left.layer value = layer, right.layer value' = layer' at layers
  cases layers with
  | map entries => exact .ok entries
  | _ => exact .error

theorem itemsOf_related (agrees : left.Agrees right related) (name : Text)
    (are : Option.Rel related value? value'?) :
    Outcome.Related (List.Forall₂ related) (left.itemsOf name value?)
      (right.itemsOf name value'?) := by
  cases are with
  | none => exact .ok .nil
  | @some value value' values =>
      have layers := agrees.layer values
      unfold View.itemsOf
      simp only
      generalize left.layer value = layer, right.layer value' = layer' at layers
      cases layers with
      | @scalar content =>
          cases content with
          | null => exact .ok .nil
          | _ => exact .error
      | map => exact .ok (.cons values .nil)
      | list items => exact .ok items
      | tuple | set => exact .error

theorem firstOf?_rel (agrees : left.Agrees right related) (are : related value value') :
    Option.Rel related (left.firstOf? value) (right.firstOf? value') := by
  have layers := agrees.layer are
  unfold View.firstOf?
  generalize left.layer value = layer, right.layer value' = layer' at layers
  cases layers with
  | list items =>
      cases items with
      | nil => exact .none
      | cons first => exact .some first
  | _ => exact .some are

theorem unlessNull?_rel (agrees : left.Agrees right related) (are : related value value') :
    Option.Rel related (left.unlessNull? value) (right.unlessNull? value') := by
  rw [View.unlessNull?, View.unlessNull?, agrees.isNull_eq are]
  split
  · exact .none
  · exact .some are

theorem namingValue?_rel (agrees : left.Agrees right related) (are : related value value') :
    Option.Rel related (left.namingValue? value) (right.namingValue? value') := by
  refine rel_bind (agrees.firstOf?_rel are) fun {first first'} firstAre => ?_
  have layers := agrees.layer firstAre
  generalize left.layer first = layer, right.layer first' = layer' at layers
  cases layers with
  | map entries => exact rel_bind (agrees.find?_rel entries "@id") agrees.unlessNull?_rel
  | _ => exact agrees.unlessNull?_rel firstAre

theorem identifierOf_eq (agrees : left.Agrees right related)
    (are : Option.Rel related value? value'?) :
    left.identifierOf value? = right.identifierOf value'? := by
  have naming := rel_bind are agrees.namingValue?_rel
  unfold View.identifierOf
  generalize value?.bind left.namingValue? = naming?,
    value'?.bind right.namingValue? = naming'? at naming
  cases naming with
  | none => rfl
  | some values => exact congrArg (some <$> ·) (agrees.text_eq values)

theorem literalOf_eq (agrees : left.Agrees right related)
    (are : Option.Rel related value? value'?) :
    left.literalOf value? = right.literalOf value'? := by
  have firsts := rel_bind are agrees.firstOf?_rel
  unfold View.literalOf
  generalize value?.bind left.firstOf? = first?, value'?.bind right.firstOf? = first'? at firsts
  cases firsts with
  | none => rfl
  | @some first first' firstAre =>
      have layers := agrees.layer firstAre
      simp only
      generalize left.layer first = layer, right.layer first' = layer' at layers
      cases layers with
      | @map entries entries' entriesAre =>
          have contents := agrees.find?_rel entriesAre "@value"
          simp only
          generalize left.find? entries _ = content?, right.find? entries' _ = content'?
            at contents
          cases contents with
          | none => rfl
          | some values => exact agrees.text_eq values
      | _ => exact agrees.text_eq firstAre

end View.Agrees

/-! ## The parts of a contract -/

namespace View.Agrees

variable {value : α} {value' : β}

theorem datatypeOf_eq (agrees : left.Agrees right related) {type? : Option α} {type'? : Option β}
    (are : Option.Rel related type? type'?) :
    TypedValue.datatypeOf left type? = TypedValue.datatypeOf right type'? := by
  cases are with
  | none => rfl
  | some types =>
      rw [TypedValue.datatypeOf, TypedValue.datatypeOf]
      simp only [agrees.identifier_eq types]

theorem ofEntries_eq (agrees : left.Agrees right related) {entries : List (α × α)}
    {entries' : List (β × β)} (are : RelatedEntries related entries entries') :
    TypedValue.ofEntries left entries = TypedValue.ofEntries right entries' := by
  have contents := agrees.find?_rel are "@value"
  rw [TypedValue.ofEntries, TypedValue.ofEntries,
    agrees.datatypeOf_eq (agrees.find?_rel are "@type")]
  generalize left.find? entries "@value" = content?, right.find? entries' "@value" = content'?
    at contents
  cases contents with
  | none => rfl
  | some values => simp only [agrees.text_eq values]

theorem typedValue_eq (agrees : left.Agrees right related) (are : related value value') :
    TypedValue.read left value = TypedValue.read right value' := by
  have firsts := agrees.firstOf?_rel are
  rw [TypedValue.read_eq, TypedValue.read_eq]
  generalize left.firstOf? value = first?, right.firstOf? value' = first'? at firsts
  cases firsts with
  | none => exact agrees.ofEntries_eq .nil
  | @some first first' firstAre =>
      have layers := agrees.layer firstAre
      simp only [agrees.text_eq firstAre]
      generalize left.layer first = layer, right.layer first' = layer' at layers
      cases layers with
      | map entries => exact agrees.ofEntries_eq entries
      | _ => rfl

theorem constraint_eq (agrees : left.Agrees right related) (are : related value value') :
    Constraint.read left value = Constraint.read right value' := by
  apply (agrees.entriesOf_related .constraint are).bind_eq
  intro entries entries' entriesAre
  have properties := agrees.property?_rel entriesAre
  have rights := rel_bind (properties "rightOperand") agrees.unlessNull?_rel
  dsimp only
  rw [agrees.identifierOf_eq (properties "leftOperand"),
    agrees.identifierOf_eq (properties "operator"),
    agrees.identifierOf_eq (properties "pipEndpoint")]
  generalize (left.property? entries "rightOperand").bind left.unlessNull? = right?,
    (right.property? entries' "rightOperand").bind right.unlessNull? = right'? at rights
  cases rights with
  | none => rfl
  | some values => simp only [require, Outcome.ok_bind, agrees.typedValue_eq values]

theorem constraints_eq (agrees : left.Agrees right related) {entries : List (α × α)}
    {entries' : List (β × β)} (are : RelatedEntries related entries entries') :
    Constraint.readAll left entries = Constraint.readAll right entries' :=
  (agrees.itemsOf_related "constraint" (agrees.property?_rel are "constraint")).bind_eq
    fun items => readEach_eq_of_forall₂ items (fun item _ => agrees.constraint_eq item) 0

theorem duty_eq (agrees : left.Agrees right related) (are : related value value') :
    Duty.read left value = Duty.read right value' := by
  refine (agrees.entriesOf_related .duty are).bind_eq fun entries => ?_
  rw [agrees.identifierOf_eq (agrees.property?_rel entries "action"), agrees.constraints_eq entries]

theorem rule_eq (agrees : left.Agrees right related) (kind : RuleKind)
    (are : related value value') : Rule.read left kind value = Rule.read right kind value' := by
  apply (agrees.entriesOf_related .rule are).bind_eq
  intro entries entries' entriesAre
  have properties := agrees.property?_rel entriesAre
  dsimp only
  rw [agrees.identifierOf_eq (properties "action"), agrees.constraints_eq entriesAre,
    agrees.literalOf_eq (properties "title"), agrees.literalOf_eq (properties "description")]
  congr 1
  funext action
  congr 1
  funext constraints
  refine (agrees.itemsOf_related "postDuty" (properties "postDuty")).bind_eq fun items => ?_
  rw [readEach_eq_of_forall₂ items fun duty _ => by rw [agrees.duty_eq duty]]

theorem readEntry_eq (agrees : left.Agrees right related) {entry : α × α} {entry' : β × β}
    (are : related entry.1 entry'.1 ∧ related entry.2 entry'.2) :
    Policy.readEntry left entry = Policy.readEntry right entry' := by
  have layers := agrees.layer are.1
  unfold Policy.readEntry
  generalize left.layer entry.1 = layer, right.layer entry'.1 = layer' at layers
  cases layers with
  | @scalar content =>
      cases content with
      | text key =>
          simp only
          cases RuleKind.ofKey? key with
          | none => rfl
          | some kind =>
              exact (agrees.itemsOf_related key (.some are.2)).bind_eq fun items =>
                readEach_eq_of_forall₂ items (fun rule _ => by rw [agrees.rule_eq kind rule]) 0
      | _ => rfl
  | _ => rfl

/-- Through views that agree, a document is read as the same contract or with the
same fault. -/
theorem policy_eq (agrees : left.Agrees right related) (are : related value value') :
    Policy.read left value = Policy.read right value' := by
  apply (agrees.entriesOf_related .policy are).bind_eq
  intro entries entries' entriesAre
  have types := agrees.find?_rel entriesAre "@type"
  have rules_eq : readEach (fun _ entry => Policy.readEntry left entry) 0 entries =
      readEach (fun _ entry => Policy.readEntry right entry) 0 entries' :=
    readEach_eq_of_forall₂ entriesAre (fun entry _ => agrees.readEntry_eq entry) 0
  rw [rules_eq]
  generalize left.find? entries "@type" = type?, right.find? entries' "@type" = type'? at types
  cases types with
  | none => rfl
  | @some type type' values =>
      simp only [Option.filter_some, agrees.isTruthy_eq values]
      cases (right.layer type').isTruthy with
      | false => rfl
      | true => simp only [↓reduceIte, agrees.text_eq values]

end View.Agrees

end

end UsageContracts
