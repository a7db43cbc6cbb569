import UsageContracts.Contract.Document
import UsageContracts.Contract.Signature

/-!
# Verdicts

What users are told about the pattern of a contract and about the catalogue of
patterns, as JSON and as log records' wording.
-/

namespace UsageContracts

namespace Pattern

/-- The answer that a contract follows a pattern, or none. -/
def verdict (pattern : Pattern) : Json :=
  .object
    [ member "pattern" pattern.name,
      member "recognized" (.bool (pattern ≠ .notRecognized)) ]

/-- The entry of a pattern in the catalogue. -/
def catalogueEntry (pattern : Pattern) : Json :=
  .object [member "name" pattern.name, member "slug" pattern.slug]

/-- The entries of all patterns that a contract can follow. -/
def catalogue : List Json :=
  concrete.map catalogueEntry

end Pattern

namespace Policy

/-- How the verdict on a contract is put on record. -/
def verdictNote (policy : Policy) : Text :=
  match policy.rules with
  | [] => "Policy has no rules"
  | rule :: _ =>
      "Classified " ++ rule.kind.name ++ " rule (" ++ Text.decimal rule.constraints.length ++
        " constraints, " ++ Text.decimal rule.duties.length ++ " duties) as " ++
        rule.pattern.name

end Policy

end UsageContracts
