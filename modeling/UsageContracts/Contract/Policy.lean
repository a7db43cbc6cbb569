import UsageContracts.Contract.Terms

/-!
# Contracts

A contract is a policy: a list of rules in document order.  A rule permits or
prohibits an action under constraints, and a permission can bring duties that
are due after the action.
-/

namespace UsageContracts

/-- A value with its datatype. -/
structure TypedValue where
  text : Text
  datatype : Datatype := .string
deriving DecidableEq

/-- A condition on a rule or a duty.  Every operand goes with every operator
here; pairings that no pattern uses are merely not recognised. -/
structure Constraint where
  operand : Operand
  operator : Operator
  value : TypedValue
  /-- Where the information comes from that the operand measures. -/
  informationPoint : Option Text := none
deriving DecidableEq

/-- What has to be done after the action of a rule. -/
structure Duty where
  action : Action
  constraints : List Constraint := []
deriving DecidableEq

/-- A permission or a prohibition.  Title and description are for people. -/
structure Rule where
  kind : RuleKind
  action : Action := .use
  constraints : List Constraint := []
  duties : List Duty := []
  title : Text := []
  description : Text := []
deriving DecidableEq

/-- The document type of a contract that names none. -/
def defaultDocumentType : Text := "ids:ContractOffer"

/-- A contract. -/
structure Policy where
  rules : List Rule := []
  documentType : Text := defaultDocumentType
deriving DecidableEq

end UsageContracts
