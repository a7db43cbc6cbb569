import UsageContracts.Contract.Identifier
import UsageContracts.Document.Layer

/-!
# Terms of a contract

The operands, operators and actions that rules are made of, the datatypes of
their values, and the two kinds of rules.
-/

namespace UsageContracts

/-- What a constraint measures. -/
inductive Operand
  | count
  | elapsedTime
  | policyEvaluationTime
  | endpoint
  | other
deriving DecidableEq

/-- How a constraint compares what it measures with its value. -/
inductive Operator
  | atMost
  | shorterOrEqual
  | after
  | before
  | temporalEquals
  | definesAs
  | other
deriving DecidableEq

/-- What a rule governs or a duty demands. -/
inductive Action
  | use
  | delete
  | log
  | notify
  | other
deriving DecidableEq

/-- The datatype of a constraint's value. -/
inductive Datatype
  | integer
  | double
  | duration
  | timestamp
  | uri
  | string
  | other
deriving DecidableEq

/-- Whether a rule grants or denies its action. -/
inductive RuleKind
  | permission
  | prohibition
deriving DecidableEq

instance : Vocabulary Operand where
  terms := [.count, .elapsedTime, .policyEvaluationTime, .endpoint, .other]
  name
    | .count => "COUNT"
    | .elapsedTime => "ELAPSED_TIME"
    | .policyEvaluationTime => "POLICY_EVALUATION_TIME"
    | .endpoint => "ENDPOINT"
    | .other => "OTHER"
  other := .other

instance : Vocabulary Operator where
  terms := [.atMost, .shorterOrEqual, .after, .before, .temporalEquals, .definesAs, .other]
  name
    | .atMost => "LTEQ"
    | .shorterOrEqual => "SHORTER_EQ"
    | .after => "AFTER"
    | .before => "BEFORE"
    | .temporalEquals => "TEMPORAL_EQUALS"
    | .definesAs => "DEFINES_AS"
    | .other => "OTHER"
  other := .other

instance : Vocabulary Action where
  terms := [.use, .delete, .log, .notify, .other]
  name
    | .use => "USE"
    | .delete => "DELETE"
    | .log => "LOG"
    | .notify => "NOTIFY"
    | .other => "OTHER"
  other := .other

namespace Datatype

/-- The datatypes in order. -/
def all : List Datatype :=
  [.integer, .double, .duration, .timestamp, .uri, .string, .other]

/-- The identifier of a datatype in documents. -/
def identifier : Datatype → Text
  | .integer => "xsd:integer"
  | .double => "xsd:double"
  | .duration => "xsd:duration"
  | .timestamp => "xsd:dateTimeStamp"
  | .uri => "xsd:anyURI"
  | .string => "xsd:string"
  | .other => "xsd:anySimpleType"

/-- The datatype that an identifier names, whatever its namespace; letter case
matters.  The empty identifier names the datatype of plain texts. -/
def ofIdentifier (identifier : Text) : Datatype :=
  if identifier.isEmpty then
    .string
  else
    let wanted := localName identifier
    (all.find? fun datatype => localName datatype.identifier == wanted).getD .other

end Datatype

namespace RuleKind

/-- The name of a kind. -/
def name : RuleKind → Text
  | .permission => "permission"
  | .prohibition => "prohibition"

/-- The other kind. -/
def opposite : RuleKind → RuleKind
  | .permission => .prohibition
  | .prohibition => .permission

end RuleKind

/-- The identifier that a value gives: its display form, or the empty
identifier if the value counts as false. -/
def View.identifier {α : Type} (view : View α) (value : α) : Except NumeralFault Text :=
  if (view.layer value).isTruthy then view.display value else .ok []

end UsageContracts
