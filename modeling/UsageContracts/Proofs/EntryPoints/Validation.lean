import UsageContracts.Proofs.Contract.PlainForm
import UsageContracts.Proofs.EntryPoints.Findings

/-!
# What is printed of valid contracts

A run that validates a contract and prints JSON prints the plain form of the contract.  Two
contracts of whole code points are told apart by what is printed.  Otherwise code points
whose numbers have more than four hexadecimal digits are not told from their halves.
-/

namespace UsageContracts

open Json Outcome

/-! ## Halves -/

theorem Rule.allConstraints_halved (rule : Rule) :
    rule.halved.allConstraints = rule.allConstraints.map Constraint.halved := by
  simp only [allConstraints, halved, List.map_append, List.map_flatMap, List.flatMap_map,
    Duty.halved]

theorem Rule.review_halved (index : Nat) (rule : Rule) :
    rule.halved.review index = rule.review index := by
  rw [review, allConstraints_halved, List.filter_map, List.map_map]
  rfl

namespace Policy

variable {policy other : Policy}

theorem review_halved (policy : Policy) : policy.halved.review = policy.review := by
  have rules_eq : policy.halved.rules.mapIdx Rule.review = policy.rules.mapIdx Rule.review := by
    apply List.ext_getElem
    · simp [halved]
    · intro index _ _
      simp [halved, Rule.review_halved]
  rcases policy with ⟨rules, documentType⟩
  cases rules with
  | nil => rfl
  | cons first rest =>
      simp only [halved, List.map_cons] at rules_eq
      simp only [review, halved, List.map_cons, rules_eq, List.length_cons, List.length_map]

theorem halved_inj (whole : policy.IsWhole) (otherWhole : other.IsWhole)
    (same : policy.halved = other.halved) : policy = other := by
  rcases policy with ⟨rules, documentType⟩
  rcases other with ⟨otherRules, otherDocumentType⟩
  simp only [halved, mk.injEq] at same
  obtain ⟨documentTypeWhole, rulesWhole⟩ := List.forall_mem_cons.mp whole
  obtain ⟨otherDocumentTypeWhole, otherRulesWhole⟩ := List.forall_mem_cons.mp otherWhole
  obtain rfl := Text.halved_inj documentTypeWhole otherDocumentTypeWhole same.2
  obtain rfl := eq_of_map_halved_eq Rule.halved_inj rulesWhole otherRulesWhole same.1
  rfl

end Policy

/-! ## Printed JSON -/

theorem validityJson_isFloatless (policy : Policy) : (validityJson policy).IsFloatless :=
  ⟨trivial, trivial, areFloatless_map _ fun _ => trivial, policy.toPlain_isFloatless, trivial⟩

/-- What is printed tells the halves of a contract. -/
theorem printedJson_validityJson_eq_iff {policy other : Policy} :
    printedJson (validityJson policy) = printedJson (validityJson other) ↔
      policy.halved = other.halved := by
  have printed_iff : printedJson (validityJson policy) = printedJson (validityJson other) ↔
      (validityJson policy).halved = (validityJson other).halved := by
    rw [printedJson, printedJson, line, line, List.append_left_inj]
    exact write_eq_iff (validityJson_isFloatless policy) (validityJson_isFloatless other)
  rw [printed_iff]
  constructor
  · intro same
    obtain ⟨-, -, plain_eq⟩ : _ ∧ _ ∧ policy.toPlain.halved = other.toPlain.halved := by
      simpa [validityJson, Json.halved, membersHalved, memberHalved, member] using same
    rw [policy.halved_toPlain, other.halved_toPlain] at plain_eq
    exact (policy.halved.toPlain_isSame_iff other.halved).mp (plain_eq ▸ .refl _)
  · intro same
    have length_eq : policy.rules.length = other.rules.length := by
      simpa [Policy.halved] using congrArg (fun policy : Policy => policy.rules.length) same
    have review_eq : policy.review = other.review := by
      rw [← policy.review_halved, same, other.review_halved]
    have plain_eq : policy.toPlain.halved = other.toPlain.halved := by
      rw [policy.halved_toPlain, other.halved_toPlain, same]
    simp only [validityJson, Json.halved, membersHalved, memberHalved, member, length_eq, review_eq,
      plain_eq]

/-! ## Runs -/

namespace Surroundings

/-- Whether a run validates a contract and prints JSON. -/
inductive Validates (surroundings : Surroundings) (arguments : List Text) (policy : Policy) : Prop
  | intro {file : Text} {settings : Settings} {tree : FileTree} :
      surroundings.Performs arguments (.validate file) true settings tree →
      Sources.policy { tree, input := surroundings.input } file = .ok policy →
      Validates surroundings arguments policy

variable {surroundings : Surroundings} {arguments : List Text} {policy : Policy}

/-- Such a run prints what is told of the contract. -/
theorem Validates.prints (validates : surroundings.Validates arguments policy) :
    (surroundings.run arguments).ending = .finished 0 ∧
      (surroundings.run arguments).output = printedJson (validityJson policy) := by
  rcases validates with ⟨performs, policy_eq⟩
  rcases performs.exists_run_eq with ⟨isVerbose, log, run_eq⟩
  simp only [run_eq, Command.plan, validatePlan, policy_eq, Plan.carryOut, if_true, and_self]

theorem holding_validates {text : Text} (policy_eq : Policy.ofText text = .ok policy) :
    (holding text).Validates (commandLine true "validate" "-") policy := by
  refine .intro (holding_performs text (by decide) (Command.read_validate "-") true) ?_
  rw [(holding_give text (.inl rfl)).policy_eq, policy_eq, mapError_ok]

end Surroundings

namespace Policy

/-- Contracts with the same plain form are the same.  What runs print that validate contracts
is the same exactly if the contracts with halves are; contracts of whole code points need not
be halved for that. -/
theorem told_apart (policy other : Policy) :
    (policy.toPlain.IsSame other.toPlain ↔ policy = other) ∧
    ∀ {surroundings others : Surroundings} {arguments otherArguments : List Text},
      surroundings.Validates arguments policy → others.Validates otherArguments other →
        ((surroundings.run arguments).output = (others.run otherArguments).output ↔
          policy.halved = other.halved) ∧
        (policy.IsWhole → other.IsWhole →
          ((surroundings.run arguments).output = (others.run otherArguments).output ↔
            policy = other)) := by
  refine ⟨policy.toPlain_isSame_iff other, fun validates otherValidates => ?_⟩
  rw [validates.prints.2, otherValidates.prints.2, printedJson_validityJson_eq_iff]
  refine ⟨Iff.rfl, fun whole otherWhole => ⟨halved_inj whole otherWhole, ?_⟩⟩
  rintro rfl
  rfl

/-- A permission under a constraint that may have an endpoint. -/
def countedSample (endpoint : Option Text) : Policy where
  rules :=
    [{ kind := .permission
       constraints :=
         [{ operand := .count, operator := .atMost, value := { text := "5" },
            informationPoint := endpoint }] }]

/-- A document of such a permission without an endpoint. -/
def withoutEndpointSample : Text :=
  "permission:\n- constraint:\n  - leftOperand: COUNT\n    operator: LTEQ\n    rightOperand: '5'\n"

/-- A document of the same permission with an empty endpoint. -/
def emptyEndpointSample : Text :=
  withoutEndpointSample ++ "    pipEndpoint: ''\n"

/-- An empty endpoint is told from none at all. -/
theorem told_apart_of_samples :
    ((Surroundings.holding withoutEndpointSample).run (commandLine true "validate" "-")).output ≠
      ((Surroundings.holding emptyEndpointSample).run
        (commandLine true "validate" "-")).output := by
  have without : ofText withoutEndpointSample = .ok (countedSample none) := by
    decide +kernel
  have empty : ofText emptyEndpointSample = .ok (countedSample (some [])) := by
    decide +kernel
  have whole : (countedSample none).IsWhole ∧ (countedSample (some [])).IsWhole := by
    decide
  have differ : countedSample none ≠ countedSample (some []) := by
    decide
  obtain ⟨-, told⟩ := told_apart (countedSample none) (countedSample (some []))
  have told := (told (Surroundings.holding_validates without)
    (Surroundings.holding_validates empty)).2 whole.1 whole.2
  exact told.not.mpr differ

/-- A permission with a title. -/
def titledSample (title : Text) : Policy where
  rules := [{ kind := .permission, title }]

/-- A document whose title is a code point with five hexadecimal digits. -/
def farTitleSample : Text :=
  "permission:\n- title: \"\\U0001F600\"\n"

/-- A document whose title is the two halves of that code point. -/
def halvesTitleSample : Text :=
  "permission:\n- title: \"\\ud83d\\ude00\"\n"

/-- Not all contracts are told apart by what is printed. -/
theorem halvesTitleSample_not_told_apart :
    ∃ policy other : Policy,
      (Surroundings.holding farTitleSample).Validates (commandLine true "validate" "-") policy ∧
      (Surroundings.holding halvesTitleSample).Validates (commandLine true "validate" "-") other ∧
      ((Surroundings.holding farTitleSample).run (commandLine true "validate" "-")).output =
        ((Surroundings.holding halvesTitleSample).run (commandLine true "validate" "-")).output ∧
      policy ≠ other := by
  have far : ofText farTitleSample = .ok (titledSample "😀") := by
    decide +kernel
  have halves : ofText halvesTitleSample = .ok (titledSample ("😀" : Text).halved) := by
    decide +kernel
  have validates := Surroundings.holding_validates far
  have otherValidates := Surroundings.holding_validates halves
  refine ⟨_, _, validates, otherValidates, ?_, by decide⟩
  rw [validates.prints.2, otherValidates.prints.2]
  exact printedJson_validityJson_eq_iff.mpr (by decide)

end Policy

end UsageContracts
