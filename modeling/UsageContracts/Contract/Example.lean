import UsageContracts.Contract.Document
import UsageContracts.Document.Value
import UsageContracts.Json.Indent
import UsageContracts.Pattern
import UsageContracts.Text.Blank

/-!
# Examples of patterns

The canonical contract of each pattern with its text, and the names under which a
pattern is asked for.
-/

namespace UsageContracts

namespace Example

/-- The moment that the examples refer to. -/
def moment : TypedValue :=
  { text := "2020-07-11T00:00:00Z", datatype := .timestamp }

/-- The constraint that the time of evaluation has the given relation to the
moment of the examples. -/
def timeConstraint (operator : Operator) : Constraint :=
  { operand := .policyEvaluationTime, operator, value := moment }

/-- The constraints of an interval. -/
def interval : List Constraint :=
  [timeConstraint .after, timeConstraint .before]

/-- The contract whose only rule governs the use, has the title of the examples
and is described by the slug of its pattern. -/
def policy (pattern : Pattern) (kind : RuleKind) (constraints : List Constraint)
    (duties : List Duty) (documentType : Text := defaultDocumentType) : Policy :=
  let rule : Rule :=
    { kind, constraints, duties
      title := "Example Usage Policy"
      description := pattern.slug }
  { rules := [rule], documentType }

end Example

namespace Pattern

open Example in
/-- The canonical contract of a pattern. -/
def example? (pattern : Pattern) : Option Policy :=
  match pattern with
  | .provideAccess => some (policy pattern .permission [] [])
  | .prohibitAccess => some (policy pattern .prohibition [] [])
  | .nTimesUsage =>
      let limit : Constraint :=
        { operand := .count
          operator := .atMost
          value := { text := "5", datatype := .integer }
          informationPoint := some "https://localhost:8080/admin/api/resources/" }
      some (policy pattern .permission [limit] [] "ids:NotMoreThanNOffer")
  | .durationUsage =>
      let limit : Constraint :=
        { operand := .elapsedTime
          operator := .shorterOrEqual
          value := { text := "PT4H", datatype := .duration } }
      some (policy pattern .permission [limit] [])
  | .usageDuringInterval => some (policy pattern .permission interval [])
  | .usageUntilDeletion =>
      let deletion : Duty :=
        { action := .delete, constraints := [timeConstraint .temporalEquals] }
      some (policy pattern .permission interval [deletion])
  | .usageLogging => some (policy pattern .permission [] [{ action := .log }])
  | .usageNotification =>
      let endpoint : Constraint :=
        { operand := .endpoint
          operator := .definesAs
          value := { text := "https://localhost:8000/api/ids/data", datatype := .uri } }
      some (policy pattern .permission [] [{ action := .notify, constraints := [endpoint] }])
  | .notRecognized => none

end Pattern

/-! ## Names of patterns -/

/-- Why no pattern or no example is found. -/
inductive PatternFault
  /-- The name is that of no concrete pattern. -/
  | unknown (name : Text)
  /-- There is no example for the value. -/
  | unsupported (value : Text)
  /-- The name cannot be written down. -/
  | numeral (fault : NumeralFault)
deriving DecidableEq

namespace PatternFault

/-- The wording of a fault. -/
def message : PatternFault → Text
  | .unknown name => "Unknown pattern: " ++ name
  | .unsupported value => "Unsupported pattern: " ++ value
  | .numeral fault => fault.message

end PatternFault

namespace Pattern

/-- The spelling of a name that is compared with the canonical names: without
white space around it, in upper case, with underscores for hyphens and
spaces. -/
def canonicalSpelling (name : Text) : Text :=
  name.trim.upper.map fun point : CodePoint =>
    if point = '-' ∨ point = ' ' then '_' else point

/-- The concrete pattern with the given name, in any letter case, with hyphens
or spaces for the underscores, and with white space around it. -/
def resolve (name : Text) : Except PatternFault Pattern :=
  match ofName? (canonicalSpelling name) with
  | none => .error (.unknown name)
  | some .notRecognized => .error (.unknown name)
  | some pattern => .ok pattern

/-- The concrete pattern that a value gives, as a pattern or by name. -/
def resolveValue (value : Value) : Except PatternFault Pattern :=
  match value with
  | .scalar (.pattern .notRecognized) => .error (.unknown notRecognized.name)
  | .scalar (.pattern pattern) => .ok pattern
  | value =>
      match Value.view.display value with
      | .ok name => resolve name
      | .error fault => .error (.numeral fault)

/-- The canonical contract for a value that is a pattern. -/
def synthesize (value : Value) : Except PatternFault Policy :=
  let example? :=
    match value with
    | .scalar (.pattern pattern) => pattern.example?
    | _ => none
  match example? with
  | some policy => .ok policy
  | none =>
      match Value.view.display value with
      | .ok text => .error (.unsupported text)
      | .error fault => .error (.numeral fault)

/-- The canonical contract of the pattern that a value gives. -/
def exampleOf (name : Value) : Except PatternFault Policy := do
  let pattern ← resolveValue name
  synthesize (.scalar (.pattern pattern))

end Pattern

/-! ## Texts of examples -/

/-- Why there is no text of an example. -/
inductive ExampleFault
  | pattern (fault : PatternFault)
  | indent (fault : IndentFault)
deriving DecidableEq

namespace ExampleFault

/-- The wording of a fault. -/
def message : ExampleFault → Text
  | .pattern fault => fault.message
  | .indent fault => fault.message

end ExampleFault

namespace Pattern

/-- The text of the canonical contract of the pattern that a value gives, in the
layout that an indent asks for. -/
def exampleText (name indent : Value) : Except ExampleFault Text := do
  let policy ← (exampleOf name).mapError .pattern
  let layout ← (Layout.ofValue indent).mapError .indent
  return policy.dump layout

end Pattern

end UsageContracts
