import UsageContracts.Contract.Example
import UsageContracts.Contract.Review
import UsageContracts.Proofs.Contract.Signature

/-!
# Known pairings

Reviews and signatures speak of pairings in tables of their own.  The tables agree: the
known pairings are those for which signatures examine the constraints of a rule.  Two
patterns leave the duties of a rule open, so that a review can warn of a duty in a rule
that is recognised all the same.
-/

namespace UsageContracts

/-- Whether the rules of a pattern can bring any duties. -/
def Pattern.leavesDutiesOpen : Pattern → Bool
  | .nTimesUsage => true
  | .durationUsage => true
  | _ => false

namespace Rule

/-- The constraints that the pattern of a rule looks at: those of the rule itself and,
unless the pattern leaves duties open, those of its duties. -/
def examinedConstraints (rule : Rule) : List Constraint :=
  rule.constraints ++
    if rule.pattern.leavesDutiesOpen then [] else rule.duties.flatMap (·.constraints)

variable {rule : Rule}

/-! ## Signatures -/

theorem mem_pairings_iff {pairing : Pairing} :
    pairing ∈ rule.pairings ↔ ∃ constraint ∈ rule.constraints, constraint.pairing = pairing :=
  List.mem_map

/-- The rule itself pairs only what is known. -/
theorem Follows.mem_knownPairings {pattern : Pattern} (follows : rule.Follows pattern)
    {pairing : Pairing} (member : pairing ∈ rule.pairings) : pairing ∈ knownPairings := by
  have interval (perm : rule.pairings.Perm intervalPairings) : pairing ∈ knownPairings := by
    have within : intervalPairings ⊆ knownPairings := by
      decide
    exact within (perm.subset member)
  have single {other : Pairing} (isKnown : other ∈ knownPairings)
      (pairings_eq : rule.pairings = [other]) : pairing ∈ knownPairings := by
    rw [pairings_eq, List.mem_singleton] at member
    rwa [member]
  have none (pairings_eq : rule.pairings = []) : pairing ∈ knownPairings := by
    rw [pairings_eq] at member
    cases member
  cases pattern with
  | nTimesUsage => exact single (by decide) follows.2
  | durationUsage => exact single (by decide) follows.2
  | usageUntilDeletion => exact interval follows.2.1
  | usageDuringInterval => exact interval follows.2.1
  | prohibitAccess | provideAccess | usageLogging | usageNotification => exact none follows.2.1
  | notRecognized => exact follows.elim

/-- The duties of a rule pair only what is known, unless its pattern leaves them open. -/
theorem Follows.mem_knownPairings_of_demand {pattern : Pattern} (follows : rule.Follows pattern)
    (settled : pattern.leavesDutiesOpen = false) {demand : Action × List Pairing}
    (demanded : demand ∈ rule.demands) {pairing : Pairing} (member : pairing ∈ demand.2) :
    pairing ∈ knownPairings := by
  have single {action : Action} {pairings : List Pairing} (within : pairings ⊆ knownPairings)
      (demands_eq : rule.demands = [(action, pairings)]) : pairing ∈ knownPairings := by
    rw [demands_eq, List.mem_singleton] at demanded
    rw [demanded] at member
    exact within member
  have none (demands_eq : rule.demands = []) : pairing ∈ knownPairings := by
    rw [demands_eq] at demanded
    cases demanded
  cases pattern with
  | usageUntilDeletion => exact single (by decide) follows.2.2
  | usageLogging => exact single (by decide) follows.2.2
  | usageNotification => exact single (by decide) follows.2.2
  | prohibitAccess | provideAccess | usageDuringInterval => exact none follows.2.2
  | nTimesUsage | durationUsage => cases settled
  | notRecognized => exact follows.elim

theorem follows_pattern (recognised : rule.pattern ≠ .notRecognized) :
    rule.Follows rule.pattern := by
  rcases pattern_eq_iff.mp (rfl : rule.pattern = rule.pattern) with follows | ⟨none_eq, -⟩
  · exact follows
  · exact (recognised none_eq).elim

/-- Whatever a signature looks at has a known pairing. -/
theorem pairing_mem_knownPairings (recognised : rule.pattern ≠ .notRecognized)
    {constraint : Constraint} (examined : constraint ∈ rule.examinedConstraints) :
    constraint.pairing ∈ knownPairings := by
  have follows := follows_pattern recognised
  rcases List.mem_append.mp examined with own | ofDuties
  · exact follows.mem_knownPairings (mem_pairings_iff.mpr ⟨constraint, own, rfl⟩)
  · cases isOpen : rule.pattern.leavesDutiesOpen with
    | true => simp [isOpen] at ofDuties
    | false =>
        simp only [isOpen, Bool.false_eq_true, if_false, List.mem_flatMap] at ofDuties
        rcases ofDuties with ⟨duty, dutyMember, member⟩
        exact follows.mem_knownPairings_of_demand isOpen (List.mem_map_of_mem dutyMember)
          (List.mem_map_of_mem member)

/-- Every known pairing is looked at in the example of some pattern. -/
theorem exists_examined_of_mem_knownPairings {pairing : Pairing}
    (isKnown : pairing ∈ knownPairings) :
    ∃ rule : Rule, rule.pattern ≠ .notRecognized ∧
      ∃ constraint ∈ rule.examinedConstraints, constraint.pairing = pairing := by
  let examples : List Policy := Pattern.concrete.filterMap Pattern.example?
  have inExamples : ∀ pairing ∈ knownPairings, ∃ rule ∈ examples.flatMap (·.rules),
      rule.pattern ≠ .notRecognized ∧
        ∃ constraint ∈ rule.examinedConstraints, constraint.pairing = pairing := by
    decide
  rcases inExamples pairing isKnown with ⟨rule, -, examined⟩
  exact ⟨rule, examined⟩

/-! ## Reviews -/

theorem review_eq_nil_iff {index : Nat} :
    rule.review index = [] ↔
      ∀ constraint ∈ rule.allConstraints, constraint.pairing ∈ knownPairings := by
  simp [review, Constraint.isKnown]

/-- A rule whose pattern settles its duties has no other constraints than those that are
looked at. -/
theorem examinedConstraints_eq (settled : rule.pattern.leavesDutiesOpen = false) :
    rule.examinedConstraints = rule.allConstraints := by
  rw [examinedConstraints, settled]
  rfl

end Rule

namespace Policy

/-- A review warns of nothing exactly if there is one rule, and only known pairings in it
and its duties. -/
theorem review_eq_nil_iff {policy : Policy} :
    policy.review = [] ↔
      ∃ rule, policy.rules = [rule] ∧
        ∀ constraint ∈ rule.allConstraints, constraint.pairing ∈ knownPairings := by
  rw [review]
  match policy.rules with
  | [] => simp
  | [rule] => simp [Rule.review_eq_nil_iff]
  | first :: second :: rest => simp

/-- What a review says of the first rule concerns a constraint of it or its duties with an
unknown pairing. -/
theorem pairing_not_mem_of_warning {policy : Policy} {rule : Rule} {rest : List Rule}
    (rules_eq : policy.rules = rule :: rest) {operand : Operand} {operator : Operator}
    (warned : .unknownPairing 0 operand operator ∈ policy.review) :
    (operand, operator) ∉ knownPairings := by
  rw [review, rules_eq] at warned
  simp only [List.mem_append, List.mem_flatten, List.mem_mapIdx] at warned
  rcases warned with several | ⟨_, ⟨index, _, rfl⟩, warned⟩
  · split at several <;> simp at several
  · simp only [Rule.review, List.mem_map, List.mem_filter] at warned
    rcases warned with ⟨constraint, ⟨-, unknown⟩, warning_eq⟩
    simp only [Warning.unknownPairing.injEq] at warning_eq
    obtain ⟨-, rfl, rfl⟩ := warning_eq
    simpa [Constraint.isKnown, Constraint.pairing] using unknown

end Policy

/-- The known pairings are those of the constraints that the patterns of recognised rules
look at, and a review warns of several rules and of all other pairings.  So a contract of
one rule has no warnings if it is recognised as a pattern that settles its duties, and a
contract whose first rule has a constraint that is warned of is not recognised. -/
theorem reviews_agree_with_signatures :
    (∀ pairing, pairing ∈ knownPairings ↔
      ∃ rule : Rule, rule.pattern ≠ .notRecognized ∧
        ∃ constraint ∈ rule.examinedConstraints, constraint.pairing = pairing) ∧
    (∀ policy : Policy, policy.review = [] ↔
      ∃ rule, policy.rules = [rule] ∧
        ∀ constraint ∈ rule.constraints ++ rule.duties.flatMap (·.constraints),
          constraint.pairing ∈ knownPairings) ∧
    (∀ (policy : Policy) (rule : Rule), policy.rules = [rule] →
      policy.pattern ≠ .notRecognized → policy.pattern ≠ .nTimesUsage →
      policy.pattern ≠ .durationUsage → policy.review = []) ∧
    ∀ (policy : Policy) (rule : Rule) (rest : List Rule) (constraint : Constraint),
      policy.rules = rule :: rest → constraint ∈ rule.constraints →
      .unknownPairing 0 constraint.operand constraint.operator ∈ policy.review →
      policy.pattern = .notRecognized := by
  refine ⟨fun pairing => ⟨Rule.exists_examined_of_mem_knownPairings, ?_⟩,
    fun _ => Policy.review_eq_nil_iff, ?_, ?_⟩
  · rintro ⟨rule, recognised, constraint, examined, rfl⟩
    exact Rule.pairing_mem_knownPairings recognised examined
  · intro policy rule rules_eq recognised notTimes notDuration
    have pattern_eq : policy.pattern = rule.pattern := by
      rw [Policy.pattern, rules_eq]
    rw [pattern_eq] at recognised notTimes notDuration
    have settled : rule.pattern.leavesDutiesOpen = false := by
      cases found : rule.pattern with
      | nTimesUsage => exact (notTimes found).elim
      | durationUsage => exact (notDuration found).elim
      | _ => rfl
    refine Policy.review_eq_nil_iff.mpr ⟨rule, rules_eq, fun constraint member => ?_⟩
    rw [← Rule.examinedConstraints_eq settled] at member
    exact Rule.pairing_mem_knownPairings recognised member
  · intro policy rule rest constraint rules_eq own warned
    have pattern_eq : policy.pattern = rule.pattern := by
      rw [Policy.pattern, rules_eq]
    rw [pattern_eq]
    by_contra recognised
    exact Policy.pairing_not_mem_of_warning rules_eq warned
      (Rule.pairing_mem_knownPairings recognised (List.mem_append_left _ own))

/-- A permission that counts uses until a moment. -/
def mismatchedSample : Policy :=
  let constraint : Constraint :=
    { operand := .count, operator := .before, value := Example.moment }
  { rules := [{ kind := .permission, constraints := [constraint] }] }

/-- The example of a rule with a duty has no warnings, and a permission with an unknown
pairing is not recognised. -/
theorem mismatchedSample_notRecognized :
    (∃ policy, Pattern.usageUntilDeletion.example? = some policy ∧ policy.review = []) ∧
      .unknownPairing 0 .count .before ∈ mismatchedSample.review ∧
      mismatchedSample.pattern = .notRecognized := by
  have ⟨_, _, unwarned, unrecognised⟩ := reviews_agree_with_signatures
  have warned : .unknownPairing 0 .count .before ∈ mismatchedSample.review := by
    decide
  refine ⟨⟨_, rfl, unwarned _ _ rfl ?_ ?_ ?_⟩, warned,
    unrecognised mismatchedSample _ [] _ rfl List.mem_cons_self warned⟩
  · decide
  · decide
  · decide

end UsageContracts
