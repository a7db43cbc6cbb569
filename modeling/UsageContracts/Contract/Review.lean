import UsageContracts.Contract.Policy

/-!
# Reviewing contracts

A review warns of what makes a contract hard to recognise: a missing rule,
rules that are not looked at, and constraints with pairings of operand and
operator that no pattern uses.
-/

namespace UsageContracts

/-- The pairings of operand and operator that patterns use. -/
def knownPairings : List (Operand × Operator) :=
  [ (.count, .atMost),
    (.elapsedTime, .shorterOrEqual),
    (.policyEvaluationTime, .after),
    (.policyEvaluationTime, .before),
    (.policyEvaluationTime, .temporalEquals),
    (.endpoint, .definesAs) ]

/-- What a review warns of. -/
inductive Warning
  | noRules
  | severalRules (count : Nat)
  | unknownPairing (rule : Nat) (operand : Operand) (operator : Operator)
deriving DecidableEq

namespace Warning

/-- The wording of a warning. -/
def message : Warning → Text
  | .noRules => "Warning: Policy has no rules"
  | .severalRules count =>
      "Warning: Only the first of " ++ Text.decimal count ++
        " rules is used for classification"
  | .unknownPairing rule operand operator =>
      "Warning: Rule " ++ Text.decimal rule ++ " pairs " ++ Vocabulary.name operand ++
        " with " ++ Vocabulary.name operator ++ ", which no known pattern uses"

end Warning

namespace Constraint

/-- What a constraint pairs. -/
def pairing (constraint : Constraint) : Operand × Operator :=
  (constraint.operand, constraint.operator)

/-- Whether some pattern uses the pairing of a constraint. -/
def isKnown (constraint : Constraint) : Bool :=
  knownPairings.contains constraint.pairing

end Constraint

namespace Rule

/-- The constraints of a rule, then those of its duties. -/
def allConstraints (rule : Rule) : List Constraint :=
  rule.constraints ++ rule.duties.flatMap (·.constraints)

/-- The warnings for the rule with the given index. -/
def review (index : Nat) (rule : Rule) : List Warning :=
  (rule.allConstraints.filter (!·.isKnown)).map fun constraint =>
    .unknownPairing index constraint.operand constraint.operator

end Rule

namespace Policy

/-- The warnings for a contract. -/
def review (policy : Policy) : List Warning :=
  match policy.rules with
  | [] => [.noRules]
  | rules =>
      let several : List Warning :=
        if 1 < rules.length then [.severalRules rules.length] else []
      several ++ (rules.mapIdx Rule.review).flatten

end Policy

end UsageContracts
