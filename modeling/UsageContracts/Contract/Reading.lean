import UsageContracts.Contract.Policy

/-!
# Reading contracts

A contract is read from a document value through a view of it.  Properties are
found under their bare name, or else under their name with the prefix `ids:`;
unknown properties are passed over.  The first fault met ends the reading.
-/

namespace UsageContracts

/-! ## Faults -/

/-- The parts of a contract that have to be maps. -/
inductive Part
  | policy
  | rule
  | duty
  | constraint
deriving DecidableEq

/-- The properties that a duty or a constraint cannot do without. -/
inductive RequiredProperty
  | action
  | leftOperand
  | operator
  | rightOperand
deriving DecidableEq

/-- Why a document is not read as a contract. -/
inductive ContractFault
  /-- A part is not a map. -/
  | notAMap (part : Part)
  /-- The value of a property is neither missing nor an item nor a list. -/
  | notAList (property : Text)
  /-- A required property is missing or names nothing. -/
  | missing (property : RequiredProperty)
  /-- A right operand is a map that gives no value. -/
  | missingValue
  /-- A value cannot be written as text. -/
  | unwritable (fault : NumeralFault)
  /-- There is a fault in a duty of a rule. -/
  | inDuty (index : Nat) (fault : ContractFault)
  /-- There is a fault in a rule among those listed under its kind. -/
  | inRule (kind : RuleKind) (index : Nat) (fault : ContractFault)
deriving DecidableEq

namespace Part

/-- The name of a part at the beginning of a sentence. -/
def title : Part → Text
  | .policy => "Policy"
  | .rule => "Rule"
  | .duty => "Duty"
  | .constraint => "Constraint"

end Part

namespace RequiredProperty

/-- The name of a property. -/
def name : RequiredProperty → Text
  | .action => "action"
  | .leftOperand => "leftOperand"
  | .operator => "operator"
  | .rightOperand => "rightOperand"

/-- The part that has to have a property. -/
def owner : RequiredProperty → Part
  | .action => .duty
  | _ => .constraint

end RequiredProperty

namespace ContractFault

/-- The wording of a fault. -/
def message : ContractFault → Text
  | .notAMap part => part.title ++ " must be a dictionary"
  | .notAList property => "'" ++ property ++ "' must be a list"
  | .missing property =>
      property.owner.title ++ " must have '" ++ property.name ++ "' field"
  | .missingValue => "Right operand must have '@value'"
  | .unwritable fault => fault.message
  | .inDuty index fault => "duty " ++ Text.decimal index ++ ": " ++ fault.message
  | .inRule kind index fault =>
      "Error parsing " ++ kind.name ++ " " ++ Text.decimal index ++ ": " ++ fault.message

/-- A fault met in a duty of a rule.  That a value cannot be written is not
blamed on the duty. -/
def placeInDuty (index : Nat) : ContractFault → ContractFault
  | .unwritable fault => .unwritable fault
  | fault => .inDuty index fault

end ContractFault

/-! ## Properties and their values -/

/-- Apply a function that can fail to each element of a list and its index,
counted from `start`, up to the first failure. -/
def readEach {α β ε : Type} (read : Nat → α → Except ε β) (start : Nat) :
    List α → Except ε (List β)
  | [] => .ok []
  | item :: items => do
      let result ← read start item
      let results ← readEach read (start + 1) items
      return result :: results

namespace View

variable {α : Type} (view : View α)

/-- The value of a property: that of its bare name if it is present, and else
that of its prefixed name. -/
def property? (entries : List (α × α)) (name : Text) : Option α :=
  (view.find? entries name).or (view.find? entries ("ids:" ++ name))

/-- The display form of a value, for a contract. -/
def text (value : α) : Except ContractFault Text :=
  (view.display value).mapError .unwritable

/-- The entries of a part that has to be a map. -/
def entriesOf (part : Part) (value : α) : Except ContractFault (List (α × α)) :=
  match view.layer value with
  | .map entries => .ok entries
  | _ => .error (.notAMap part)

/-- The items that a property gives: none if it is missing or null, the value
itself if it is a map, and the items of a list. -/
def itemsOf (name : Text) (value? : Option α) : Except ContractFault (List α) :=
  match value? with
  | none => .ok []
  | some value =>
      match view.layer value with
      | .scalar .null => .ok []
      | .map _ => .ok [value]
      | .list items => .ok items
      | _ => .error (.notAList name)

/-- A value, or the first item of a list. -/
def firstOf? (value : α) : Option α :=
  match view.layer value with
  | .list items => items.head?
  | _ => some value

/-- The value unless it is null. -/
def unlessNull? (value : α) : Option α :=
  if (view.layer value).isNull then none else some value

/-- The value that names something: the value itself or that under `@id`, in a
list the first one, unless it is missing or null. -/
def namingValue? (value : α) : Option α := do
  let first ← view.firstOf? value
  let naming ←
    match view.layer first with
    | .map entries => view.find? entries "@id"
    | _ => some first
  view.unlessNull? naming

/-- The identifier that a property gives, if it is present and names
something. -/
def identifierOf (value? : Option α) : Except ContractFault (Option Text) :=
  match value?.bind view.namingValue? with
  | none => .ok none
  | some naming => some <$> view.text naming

/-- The text of a literal: the value itself or that under `@value`, in a list
the first one; the empty text if there is none. -/
def literalOf (value? : Option α) : Except ContractFault Text :=
  match value?.bind view.firstOf? with
  | none => .ok []
  | some first =>
      match view.layer first with
      | .map entries =>
          match view.find? entries "@value" with
          | none => .ok []
          | some value => view.text value
      | _ => view.text first

end View

/-! ## The parts of a contract -/

/-- A property that has to be there. -/
def require {β : Type} (property : RequiredProperty) : Option β → Except ContractFault β
  | none => .error (.missing property)
  | some value => .ok value

section

variable {α : Type} (view : View α)

namespace TypedValue

/-- Read the value of a constraint.  A map gives it under `@value` and its
datatype under `@type`; in a list the first item counts, and an empty list is
an empty map. -/
def read (value : α) : Except ContractFault TypedValue :=
  let ofEntries (entries : List (α × α)) : Except ContractFault TypedValue :=
    match view.find? entries "@value" with
    | none => .error .missingValue
    | some content => do
        let text ← view.text content
        let datatype ←
          match view.find? entries "@type" with
          | none => .ok (.ofIdentifier [])
          | some datatype =>
              ((view.identifier datatype).mapError .unwritable).map Datatype.ofIdentifier
        return { text, datatype }
  match view.firstOf? value with
  | none => ofEntries []
  | some first =>
      match view.layer first with
      | .map entries => ofEntries entries
      | _ => do
          let text ← view.text first
          return { text }

end TypedValue

namespace Constraint

/-- Read a constraint.  Operands and operators without a name of their own do
not fail. -/
def read (value : α) : Except ContractFault Constraint := do
  let entries ← view.entriesOf .constraint value
  let property? := view.property? entries
  let operand ← require .leftOperand (← view.identifierOf (property? "leftOperand"))
  let operator ← require .operator (← view.identifierOf (property? "operator"))
  let right ← require .rightOperand ((property? "rightOperand").bind view.unlessNull?)
  let typedValue ← TypedValue.read view right
  let informationPoint ← view.identifierOf (property? "pipEndpoint")
  return {
    operand := Vocabulary.ofIdentifier operand
    operator := Vocabulary.ofIdentifier operator
    value := typedValue
    informationPoint }

/-- Read the constraints of a rule or a duty. -/
def readAll (entries : List (α × α)) : Except ContractFault (List Constraint) := do
  let items ← view.itemsOf "constraint" (view.property? entries "constraint")
  readEach (fun _ item => read view item) 0 items

end Constraint

namespace Duty

/-- Read a duty. -/
def read (value : α) : Except ContractFault Duty := do
  let entries ← view.entriesOf .duty value
  let action ← require .action (← view.identifierOf (view.property? entries "action"))
  let constraints ← Constraint.readAll view entries
  return { action := Vocabulary.ofIdentifier action, constraints }

end Duty

namespace Rule

/-- The action that an identifier names.  Without an identifier the action is
to use. -/
def actionOf (identifier? : Option Text) : Action :=
  match identifier? with
  | none => .use
  | some identifier => if identifier.isEmpty then .use else Vocabulary.ofIdentifier identifier

/-- Read a rule of the given kind. -/
def read (kind : RuleKind) (value : α) : Except ContractFault Rule := do
  let entries ← view.entriesOf .rule value
  let property? := view.property? entries
  let action ← view.identifierOf (property? "action")
  let constraints ← Constraint.readAll view entries
  let dutyItems ← view.itemsOf "postDuty" (property? "postDuty")
  let duties ← readEach
    (fun index item => (Duty.read view item).mapError (.placeInDuty index)) 0 dutyItems
  let title ← view.literalOf (property? "title")
  let description ← view.literalOf (property? "description")
  return { kind, action := actionOf action, constraints, duties, title, description }

end Rule

namespace RuleKind

/-- The kind of the rules listed under a key of a contract. -/
def ofKey? (key : Text) : Option RuleKind :=
  if key = "permission" ∨ key = "ids:permission" then some .permission
  else if key = "prohibition" ∨ key = "ids:prohibition" then some .prohibition
  else none

end RuleKind

namespace Policy

/-- Read the rules listed in one entry of a contract; entries with other keys
list none. -/
def readEntry (entry : α × α) : Except ContractFault (List Rule) :=
  match view.layer entry.1 with
  | .scalar (.text key) =>
      match RuleKind.ofKey? key with
      | none => .ok []
      | some kind => do
          let items ← view.itemsOf key (some entry.2)
          readEach (fun index item => (Rule.read view kind item).mapError (.inRule kind index))
            0 items
  | _ => .ok []

/-- Read a contract.  Its rules are listed in the order of the entries. -/
def read (value : α) : Except ContractFault Policy := do
  let entries ← view.entriesOf .policy value
  let rules ← readEach (fun _ entry => readEntry view entry) 0 entries
  let documentType ←
    match (view.find? entries "@type").filter fun type => (view.layer type).isTruthy with
    | none => .ok defaultDocumentType
    | some type => view.text type
  return { rules := rules.flatten, documentType }

end Policy

end

end UsageContracts
