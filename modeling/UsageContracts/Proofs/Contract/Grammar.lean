import UsageContracts.Contract.Reading
import UsageContracts.Document.Value

/-!
# The grammar of contracts

Which document values are contracts, and which fault comes first in a value
that is none.  Both are said of the value alone: a part is accepted by its shape
and the shapes of its parts, and a fault comes first if every part before it is
accepted.
-/

namespace UsageContracts.Grammar

/-- The value of a property among the entries of a map. -/
abbrev property? (entries : List (Value × Value)) (name : Text) : Option Value :=
  Value.view.property? entries name

/-! ## Identifiers and right operands -/

/-- Whether a value outside lists gives an identifier: null does not, and a map
does by what it has under `@id`. -/
def NamesSomething : Value → Prop
  | .scalar .null => False
  | .map entries => ∃ naming, Value.view.find? entries "@id" = some naming ∧ naming ≠ .null
  | _ => True

/-- Whether a value gives an identifier.  In a list the first item counts. -/
def GivesIdentifier : Value → Prop
  | .list [] => False
  | .list (first :: _) => NamesSomething first
  | value => NamesSomething value

/-- Whether a property is there and gives an identifier. -/
def HasIdentifier (entries : List (Value × Value)) (name : Text) : Prop :=
  ∃ value, property? entries name = some value ∧ GivesIdentifier value

/-- Whether a value outside lists gives the text of a right operand: a map needs
an entry for it. -/
def HoldsText : Value → Prop
  | .map entries => ∃ content, Value.view.find? entries "@value" = some content
  | _ => True

/-- Whether a value gives the text of a right operand.  In a list the first item
counts. -/
def GivesText : Value → Prop
  | .list [] => False
  | .list (first :: _) => HoldsText first
  | value => HoldsText value

/-- Whether a property is neither missing nor null. -/
def IsPresent (entries : List (Value × Value)) (name : Text) : Prop :=
  ∃ value, property? entries name = some value ∧ value ≠ .null

/-! ## Lists of parts -/

/-- Whether a value can stand for a list of parts: null, one part or a list. -/
def IsContainer : Value → Prop
  | .scalar .null => True
  | .map _ => True
  | .list _ => True
  | _ => False

/-- The parts that a value stands for. -/
def parts : Value → List Value
  | .map entries => [.map entries]
  | .list items => items
  | _ => []

/-- Whether a value stands for accepted parts only. -/
def HoldsParts (accepted : Value → Prop) (value : Value) : Prop :=
  IsContainer value ∧ ∀ part ∈ parts value, accepted part

/-- The first fault of a value that should stand for accepted parts: that it
stands for no parts at all, or the fault of the first part that is not
accepted. -/
inductive FirstPartFault (name : Text) (accepted : Value → Prop)
    (faulty : Nat → Value → ContractFault → Prop) (value : Value) : ContractFault → Prop
  | notAList : ¬ IsContainer value → FirstPartFault name accepted faulty value (.notAList name)
  | inPart {before after : List Value} {part : Value} {fault : ContractFault} :
      parts value = before ++ part :: after →
      (∀ earlier ∈ before, accepted earlier) →
      faulty before.length part fault →
      FirstPartFault name accepted faulty value fault

/-- Whether a property is missing or stands for accepted parts. -/
def HasParts (entries : List (Value × Value)) (name : Text) (accepted : Value → Prop) : Prop :=
  ∀ value, property? entries name = some value → HoldsParts accepted value

/-- The first fault of a property that should stand for accepted parts. -/
inductive FirstPropertyFault (entries : List (Value × Value)) (name : Text)
    (accepted : Value → Prop) (faulty : Nat → Value → ContractFault → Prop) :
    ContractFault → Prop
  | intro {value : Value} {fault : ContractFault} :
      property? entries name = some value →
      FirstPartFault name accepted faulty value fault →
      FirstPropertyFault entries name accepted faulty fault

/-! ## Maps -/

/-- Whether a value is a map with accepted entries. -/
inductive IsMapOf (accepted : List (Value × Value) → Prop) : Value → Prop
  | map {entries : List (Value × Value)} : accepted entries → IsMapOf accepted (.map entries)

/-- The first fault of a value that should be a map with accepted entries. -/
inductive FirstMapFault (part : Part) (faulty : List (Value × Value) → ContractFault → Prop) :
    Value → ContractFault → Prop
  | notAMap {value : Value} :
      (∀ entries, value ≠ .map entries) → FirstMapFault part faulty value (.notAMap part)
  | inMap {entries : List (Value × Value)} {fault : ContractFault} :
      faulty entries fault → FirstMapFault part faulty (.map entries) fault

/-! ## Constraints -/

/-- Whether the entries of a map make it a constraint. -/
structure ConstraintEntries (entries : List (Value × Value)) : Prop where
  leftOperand : HasIdentifier entries "leftOperand"
  operator : HasIdentifier entries "operator"
  rightOperand : ∃ right, property? entries "rightOperand" = some right ∧ right ≠ .null ∧
    GivesText right

/-- The first fault in the entries of a constraint. -/
inductive FirstConstraintEntryFault (entries : List (Value × Value)) : ContractFault → Prop
  | leftOperand :
      ¬ HasIdentifier entries "leftOperand" →
      FirstConstraintEntryFault entries (.missing .leftOperand)
  | operator :
      HasIdentifier entries "leftOperand" →
      ¬ HasIdentifier entries "operator" →
      FirstConstraintEntryFault entries (.missing .operator)
  | rightOperand :
      HasIdentifier entries "leftOperand" →
      HasIdentifier entries "operator" →
      ¬ IsPresent entries "rightOperand" →
      FirstConstraintEntryFault entries (.missing .rightOperand)
  | missingValue {right : Value} :
      HasIdentifier entries "leftOperand" →
      HasIdentifier entries "operator" →
      property? entries "rightOperand" = some right →
      right ≠ .null →
      ¬ GivesText right →
      FirstConstraintEntryFault entries .missingValue

/-- Whether a value is a constraint. -/
def IsConstraint : Value → Prop :=
  IsMapOf ConstraintEntries

/-- The first fault of a value that should be a constraint. -/
def FirstConstraintFault : Value → ContractFault → Prop :=
  FirstMapFault .constraint FirstConstraintEntryFault

/-- Whether the constraints of a rule or a duty are accepted. -/
def HasConstraints (entries : List (Value × Value)) : Prop :=
  HasParts entries "constraint" IsConstraint

/-- The first fault in the constraints of a rule or a duty. -/
def FirstFaultInConstraints (entries : List (Value × Value)) : ContractFault → Prop :=
  FirstPropertyFault entries "constraint" IsConstraint fun _ => FirstConstraintFault

/-! ## Duties -/

/-- Whether the entries of a map make it a duty. -/
structure DutyEntries (entries : List (Value × Value)) : Prop where
  action : HasIdentifier entries "action"
  constraints : HasConstraints entries

/-- The first fault in the entries of a duty. -/
inductive FirstDutyEntryFault (entries : List (Value × Value)) : ContractFault → Prop
  | action :
      ¬ HasIdentifier entries "action" → FirstDutyEntryFault entries (.missing .action)
  | constraints {fault : ContractFault} :
      HasIdentifier entries "action" →
      FirstFaultInConstraints entries fault →
      FirstDutyEntryFault entries fault

/-- Whether a value is a duty. -/
def IsDuty : Value → Prop :=
  IsMapOf DutyEntries

/-- The first fault of a value that should be a duty. -/
def FirstDutyFault : Value → ContractFault → Prop :=
  FirstMapFault .duty FirstDutyEntryFault

/-- The fault of a rule for that of its duty with the given index. -/
inductive FaultInDuty (index : Nat) (duty : Value) : ContractFault → Prop
  | intro {fault : ContractFault} :
      FirstDutyFault duty fault → FaultInDuty index duty (.inDuty index fault)

/-! ## Rules -/

/-- Whether the entries of a map make it a rule. -/
structure RuleEntries (entries : List (Value × Value)) : Prop where
  constraints : HasConstraints entries
  duties : HasParts entries "postDuty" IsDuty

/-- The first fault in the entries of a rule. -/
inductive FirstRuleEntryFault (entries : List (Value × Value)) : ContractFault → Prop
  | constraints {fault : ContractFault} :
      FirstFaultInConstraints entries fault → FirstRuleEntryFault entries fault
  | duties {fault : ContractFault} :
      HasConstraints entries →
      FirstPropertyFault entries "postDuty" IsDuty FaultInDuty fault →
      FirstRuleEntryFault entries fault

/-- Whether a value is a rule. -/
def IsRule : Value → Prop :=
  IsMapOf RuleEntries

/-- The first fault of a value that should be a rule. -/
def FirstRuleFault : Value → ContractFault → Prop :=
  FirstMapFault .rule FirstRuleEntryFault

/-- The fault of a contract for that of its rule with the given kind and
index. -/
inductive FaultInRule (kind : RuleKind) (index : Nat) (rule : Value) : ContractFault → Prop
  | intro {fault : ContractFault} :
      FirstRuleFault rule fault → FaultInRule kind index rule (.inRule kind index fault)

/-! ## Contracts -/

/-- The keys of a contract that hold rules, and the kinds of these. -/
inductive IsRuleKey : Text → RuleKind → Prop
  | permission : IsRuleKey "permission" .permission
  | prefixedPermission : IsRuleKey "ids:permission" .permission
  | prohibition : IsRuleKey "prohibition" .prohibition
  | prefixedProhibition : IsRuleKey "ids:prohibition" .prohibition

/-- Whether an entry of a contract holds rules, if its key is one for rules. -/
def IsRuleEntry (entry : Value × Value) : Prop :=
  ∀ key kind, entry.1 = .scalar (.text key) → IsRuleKey key kind → HoldsParts IsRule entry.2

/-- The first fault of an entry that should hold rules. -/
inductive FirstRuleListFault (entry : Value × Value) : ContractFault → Prop
  | intro {key : Text} {kind : RuleKind} {fault : ContractFault} :
      entry.1 = .scalar (.text key) →
      IsRuleKey key kind →
      FirstPartFault key IsRule (FaultInRule kind) entry.2 fault →
      FirstRuleListFault entry fault

/-- Whether the entries of a map make it a contract. -/
def ContractEntries (entries : List (Value × Value)) : Prop :=
  ∀ entry ∈ entries, IsRuleEntry entry

/-- The first fault in the entries of a contract. -/
inductive FirstContractEntryFault (entries : List (Value × Value)) : ContractFault → Prop
  | inEntry {before after : List (Value × Value)} {entry : Value × Value}
      {fault : ContractFault} :
      entries = before ++ entry :: after →
      (∀ earlier ∈ before, IsRuleEntry earlier) →
      FirstRuleListFault entry fault →
      FirstContractEntryFault entries fault

/-- Whether a value is a contract. -/
def IsContract : Value → Prop :=
  IsMapOf ContractEntries

/-- The first fault of a value that should be a contract. -/
def FirstFault : Value → ContractFault → Prop :=
  FirstMapFault .policy FirstContractEntryFault

end UsageContracts.Grammar
