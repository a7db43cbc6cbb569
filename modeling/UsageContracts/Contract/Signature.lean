import UsageContracts.Contract.Policy
import UsageContracts.Pattern

/-!
# Recognising patterns

Every pattern has a signature, a test on the shape of a rule.  A rule is
recognised as the first pattern in the table whose signature it bears, and a
contract as what its first rule is.
-/

namespace UsageContracts

namespace Constraint

/-- Whether a constraint relates the given operand by the given operator. -/
def relates (constraint : Constraint) (operand : Operand) (operator : Operator) : Bool :=
  constraint.operand == operand && constraint.operator == operator

end Constraint

namespace Rule

/-- Whether a rule is a permission. -/
def isPermission (rule : Rule) : Bool :=
  rule.kind == .permission

/-- Whether a rule is a prohibition. -/
def isProhibition (rule : Rule) : Bool :=
  rule.kind == .prohibition

/-- Whether a rule is a permission with one constraint, which relates the given
operand by the given operator. -/
def hasSingleConstraint (rule : Rule) (operand : Operand) (operator : Operator) : Bool :=
  rule.isPermission &&
    match rule.constraints with
    | [constraint] => constraint.relates operand operator
    | _ => false

/-- Whether a rule is a permission with two constraints, one that the time of
evaluation is after a moment and one that it is before a moment. -/
def hasInterval (rule : Rule) : Bool :=
  rule.isPermission &&
    match rule.constraints with
    | [first, second] =>
        (first.relates .policyEvaluationTime .after &&
            second.relates .policyEvaluationTime .before) ||
          (first.relates .policyEvaluationTime .before &&
            second.relates .policyEvaluationTime .after)
    | _ => false

/-- The only duty of a rule, if it is a permission without constraints and with
one duty. -/
def onlyDuty? (rule : Rule) : Option Duty :=
  match rule.kind, rule.constraints, rule.duties with
  | .permission, [], [duty] => some duty
  | _, _, _ => none

/-! ## Signatures -/

/-- A bare prohibition. -/
def isProhibitAccess (rule : Rule) : Bool :=
  rule.isProhibition && rule.constraints.isEmpty && rule.duties.isEmpty

/-- A permission whose uses are counted. -/
def isNTimesUsage (rule : Rule) : Bool :=
  rule.hasSingleConstraint .count .atMost

/-- A permission whose time of use is bounded. -/
def isDurationUsage (rule : Rule) : Bool :=
  rule.hasSingleConstraint .elapsedTime .shorterOrEqual

/-- A permission for an interval after which the data has to be deleted; to
delete it at a given moment is the only duty. -/
def isUsageUntilDeletion (rule : Rule) : Bool :=
  rule.hasInterval &&
    match rule.duties with
    | [duty] =>
        duty.action == .delete &&
          match duty.constraints with
          | [constraint] => constraint.relates .policyEvaluationTime .temporalEquals
          | _ => false
    | _ => false

/-- A permission for an interval, without duties. -/
def isUsageDuringInterval (rule : Rule) : Bool :=
  rule.hasInterval && rule.duties.isEmpty

/-- A permission with the only duty to log the use. -/
def isUsageLogging (rule : Rule) : Bool :=
  match rule.onlyDuty? with
  | some duty => duty.action == .log && duty.constraints.isEmpty
  | none => false

/-- A permission with the only duty to notify an endpoint of the use. -/
def isUsageNotification (rule : Rule) : Bool :=
  match rule.onlyDuty? with
  | some duty =>
      duty.action == .notify &&
        match duty.constraints with
        | [constraint] => constraint.relates .endpoint .definesAs
        | _ => false
  | none => false

/-- A bare permission. -/
def isProvideAccess (rule : Rule) : Bool :=
  rule.isPermission && rule.constraints.isEmpty && rule.duties.isEmpty

end Rule

/-- A pattern together with the test for the rules that follow it. -/
structure Signature where
  pattern : Pattern
  isBorneBy : Rule → Bool

/-- The signatures in the order in which they are tried. -/
def signatures : List Signature :=
  [ ⟨.prohibitAccess, Rule.isProhibitAccess⟩,
    ⟨.nTimesUsage, Rule.isNTimesUsage⟩,
    ⟨.durationUsage, Rule.isDurationUsage⟩,
    ⟨.usageUntilDeletion, Rule.isUsageUntilDeletion⟩,
    ⟨.usageDuringInterval, Rule.isUsageDuringInterval⟩,
    ⟨.usageLogging, Rule.isUsageLogging⟩,
    ⟨.usageNotification, Rule.isUsageNotification⟩,
    ⟨.provideAccess, Rule.isProvideAccess⟩ ]

namespace Rule

/-- The pattern of the first signature in a table that a rule bears. -/
def patternIn (table : List Signature) (rule : Rule) : Pattern :=
  match table.find? (·.isBorneBy rule) with
  | some signature => signature.pattern
  | none => .notRecognized

/-- The pattern that a rule follows. -/
def pattern (rule : Rule) : Pattern :=
  rule.patternIn signatures

/-- The patterns of all signatures that a rule bears, in table order. -/
def bornePatterns (rule : Rule) : List Pattern :=
  (signatures.filter (·.isBorneBy rule)).map (·.pattern)

end Rule

namespace Policy

/-- The pattern that a contract follows: that of its first rule. -/
def pattern (policy : Policy) : Pattern :=
  match policy.rules with
  | [] => .notRecognized
  | rule :: _ => rule.pattern

end Policy

end UsageContracts
