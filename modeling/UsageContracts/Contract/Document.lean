import UsageContracts.Contract.Policy
import UsageContracts.Json.Layout

/-!
# Contracts as documents

The linked-data document of a contract and its text, and the plain form in
which contracts are shown.  The document groups the rules by kind; the group of
the first rule comes first, so that it is the first one again when the document
is read.
-/

namespace UsageContracts

open Json

/-! ## Documents -/

/-- A reference to a node of linked data. -/
def reference (identifier : Text) : Json :=
  .object [member "@id" identifier]

/-- A literal with its datatype. -/
def literal (text : Text) (datatype : Datatype) : Json :=
  .object [member "@value" text, member "@type" datatype.identifier]

namespace Constraint

/-- The document of a constraint. -/
def toDocument (constraint : Constraint) : Json :=
  let informationPoint : List (Text × Json) :=
    match constraint.informationPoint with
    | none => []
    | some endpoint => [member "ids:pipEndpoint" (reference endpoint)]
  .object <|
    [ member "@type" (.text "ids:Constraint"),
      member "ids:leftOperand" (reference (Vocabulary.identifier constraint.operand)),
      member "ids:operator" (reference (Vocabulary.identifier constraint.operator)),
      member "ids:rightOperand" (literal constraint.value.text constraint.value.datatype) ] ++
    informationPoint

end Constraint

namespace Duty

/-- The document of a duty. -/
def toDocument (duty : Duty) : Json :=
  .object
    [ member "@type" (.text "ids:Duty"),
      member "ids:action" (.list [reference (Vocabulary.identifier duty.action)]),
      member "ids:constraint" (.list (duty.constraints.map Constraint.toDocument)) ]

end Duty

namespace RuleKind

/-- The key of the rules of a kind in documents. -/
def key (kind : RuleKind) : Text :=
  "ids:" ++ kind.name

/-- The type of a rule of a kind in documents. -/
def documentType : RuleKind → Text
  | .permission => "ids:Permission"
  | .prohibition => "ids:Prohibition"

end RuleKind

namespace Rule

/-- The document of a rule. -/
def toDocument (rule : Rule) : Json :=
  .object <|
    [member "@type" (.text rule.kind.documentType)] ++
    memberIf (!rule.title.isEmpty) "ids:title" (.list [literal rule.title .string]) ++
    memberIf (!rule.description.isEmpty) "ids:description"
      (.list [literal rule.description .string]) ++
    [member "ids:action" (.list [reference (Vocabulary.identifier rule.action)])] ++
    memberIf (!rule.constraints.isEmpty) "ids:constraint"
      (.list (rule.constraints.map Constraint.toDocument)) ++
    memberIf (!rule.duties.isEmpty) "ids:postDuty" (.list (rule.duties.map Duty.toDocument))

end Rule

namespace Policy

/-- The names that documents abbreviate. -/
def context : Json :=
  .object
    [ member "ids" (.text "https://w3id.org/idsa/core/"),
      member "idsc" (.text "https://w3id.org/idsa/code/"),
      member "xsd" (.text "http://www.w3.org/2001/XMLSchema#") ]

/-- The kind of a contract's first rule; permissions come first without one. -/
def leadingKind (policy : Policy) : RuleKind :=
  match policy.rules with
  | [] => .permission
  | rule :: _ => rule.kind

/-- The rules of one kind, in document order. -/
def rulesOf (policy : Policy) (kind : RuleKind) : List Rule :=
  policy.rules.filter (·.kind == kind)

/-- The member of a document that holds the rules of one kind, if there are
any. -/
def groupMember (policy : Policy) (kind : RuleKind) : List (Text × Json) :=
  let rules := policy.rulesOf kind
  memberIf (!rules.isEmpty) kind.key (.list (rules.map Rule.toDocument))

/-- The document of a contract. -/
def toDocument (policy : Policy) : Json :=
  .object <|
    [member "@context" context, member "@type" (.text policy.documentType)] ++
    policy.groupMember policy.leadingKind ++ policy.groupMember policy.leadingKind.opposite

/-- The text of a contract's document. -/
def dump (policy : Policy) (layout : Layout) : Text :=
  policy.toDocument.write layout

end Policy

/-! ## Plain form -/

namespace TypedValue

/-- The plain form of a value. -/
def toPlain (value : TypedValue) : Json :=
  .object [member "value" value.text, member "datatype" value.datatype.identifier]

end TypedValue

namespace Constraint

/-- The plain form of a constraint. -/
def toPlain (constraint : Constraint) : Json :=
  let informationPoint : List (Text × Json) :=
    match constraint.informationPoint with
    | none => []
    | some endpoint => [member "pip_endpoint" (.text endpoint)]
  .object <|
    [ member "operand" (.text (Vocabulary.name constraint.operand)),
      member "operator" (.text (Vocabulary.name constraint.operator)),
      member "value" constraint.value.toPlain ] ++
    informationPoint

end Constraint

namespace Duty

/-- The plain form of a duty. -/
def toPlain (duty : Duty) : Json :=
  .object
    [ member "action" (.text (Vocabulary.name duty.action)),
      member "constraints" (.list (duty.constraints.map Constraint.toPlain)) ]

end Duty

namespace Rule

/-- The plain form of a rule. -/
def toPlain (rule : Rule) : Json :=
  .object <|
    [ member "kind" (.text rule.kind.name),
      member "action" (.text (Vocabulary.name rule.action)),
      member "constraints" (.list (rule.constraints.map Constraint.toPlain)),
      member "post_duties" (.list (rule.duties.map Duty.toPlain)) ] ++
    memberIf (!rule.title.isEmpty) "title" rule.title ++
    memberIf (!rule.description.isEmpty) "description" rule.description

end Rule

namespace Policy

/-- The plain form of a contract. -/
def toPlain (policy : Policy) : Json :=
  .object
    [ member "document_type" (.text policy.documentType),
      member "rules" (.list (policy.rules.map Rule.toPlain)) ]

end Policy

end UsageContracts
