import Mathlib.Data.Multiset.MapFold
import Mathlib.Logic.Relation
import UsageContracts.Contract.Example
import UsageContracts.Proofs.Contract.Signature

/-!
# The shape of a contract

What a contract is recognised as depends on nothing but the shape of its first
rule: the kind of the rule, and which pairings its constraints and the
constraints of its duties have, in whatever order.  Everything else can vary.
-/

namespace UsageContracts

/-! ## Shapes -/

/-- The pairings of constraints, in no order. -/
def pairingsOf (constraints : List Constraint) : Multiset Pairing :=
  constraints.map Constraint.pairing

/-- The action of a duty and the pairings of its constraints. -/
def Duty.shape (duty : Duty) : Action × Multiset Pairing :=
  (duty.action, pairingsOf duty.constraints)

/-- What the recognition of a rule looks at. -/
structure RuleShape where
  kind : RuleKind
  pairings : Multiset Pairing
  demands : Multiset (Action × Multiset Pairing)

/-- The shape of a rule. -/
def Rule.shape (rule : Rule) : RuleShape where
  kind := rule.kind
  pairings := pairingsOf rule.constraints
  demands := rule.duties.map Duty.shape

/-- A list with at most one pairing is known from its pairings. -/
theorem pairingsOf_eq_iff {constraints : List Constraint} {pairings : List Pairing}
    (short : pairings.length ≤ 1) :
    pairingsOf constraints = pairings ↔ constraints.map Constraint.pairing = pairings := by
  rw [pairingsOf, Multiset.coe_eq_coe]
  match pairings, short with
  | [], _ => exact List.perm_nil
  | [pairing], _ => exact List.perm_singleton

theorem Duty.shape_eq_iff {duty : Duty} {action : Action} {pairings : List Pairing}
    (short : pairings.length ≤ 1) :
    duty.shape = (action, ↑pairings) ↔ duty.demand = (action, pairings) := by
  rw [shape, demand, Prod.mk.injEq, Prod.mk.injEq, pairingsOf_eq_iff short]

namespace Rule

variable {rule other : Rule}

theorem pairings_perm_iff {pairings : List Pairing} :
    rule.pairings.Perm pairings ↔ rule.shape.pairings = pairings :=
  Multiset.coe_eq_coe.symm

theorem pairings_eq_iff {pairings : List Pairing} (short : pairings.length ≤ 1) :
    rule.pairings = pairings ↔ rule.shape.pairings = pairings :=
  (pairingsOf_eq_iff short).symm

theorem demands_eq_nil_iff : rule.demands = [] ↔ rule.shape.demands = 0 := by
  simp [demands, shape]

theorem demands_eq_singleton_iff {action : Action} {pairings : List Pairing}
    (short : pairings.length ≤ 1) :
    rule.demands = [(action, pairings)] ↔ rule.shape.demands = {(action, ↑pairings)} := by
  rw [demands, shape, Multiset.coe_eq_singleton, List.map_eq_singleton_iff,
    List.map_eq_singleton_iff]
  simp only [Duty.shape_eq_iff short]

/-- Rules of one shape follow the same pattern. -/
theorem Follows.of_shape_eq {pattern : Pattern} (same : rule.shape = other.shape)
    (follows : rule.Follows pattern) : other.Follows pattern := by
  have kind_eq : rule.kind = other.kind := congrArg RuleShape.kind same
  cases pattern with
  | notRecognized => exact follows
  | _ =>
      simp (disch := decide) only [Follows, kind_eq, pairings_perm_iff, pairings_eq_iff,
        demands_eq_nil_iff, demands_eq_singleton_iff, same] at follows ⊢
      exact follows

/-- Rules of one shape are recognised as the same. -/
theorem pattern_eq_of_shape_eq (same : rule.shape = other.shape) :
    rule.pattern = other.pattern := by
  have follows_iff (pattern : Pattern) : other.Follows pattern ↔ rule.Follows pattern :=
    ⟨Follows.of_shape_eq same.symm, Follows.of_shape_eq same⟩
  refine pattern_eq_iff.mpr ?_
  simp only [← follows_iff]
  exact pattern_eq_iff.mp rfl

end Rule

/-! ## Variations -/

/-- What can vary in the constraints of a rule or a duty: their order, and the
value and the information point of each. -/
inductive ConstraintsVariation : List Constraint → List Constraint → Prop
  | order {constraints others : List Constraint} :
      constraints.Perm others → ConstraintsVariation constraints others
  | details (before after : List Constraint) (constraint : Constraint) (value : TypedValue)
      (informationPoint : Option Text) :
      ConstraintsVariation (before ++ constraint :: after)
        (before ++ { constraint with value, informationPoint } :: after)

/-- What can vary in a rule: its constraints, the order of its duties and the
constraints of each, its action, its title and its description. -/
inductive RuleVariation : Rule → Rule → Prop
  | constraints {rule : Rule} {constraints : List Constraint} :
      ConstraintsVariation rule.constraints constraints →
      RuleVariation rule { rule with constraints }
  | dutyOrder {rule : Rule} {duties : List Duty} :
      rule.duties.Perm duties → RuleVariation rule { rule with duties }
  | dutyConstraints {rule : Rule} {before after : List Duty} {duty : Duty}
      {constraints : List Constraint} :
      rule.duties = before ++ duty :: after →
      ConstraintsVariation duty.constraints constraints →
      RuleVariation rule { rule with duties := before ++ { duty with constraints } :: after }
  | wording (rule : Rule) (action : Action) (title description : Text) :
      RuleVariation rule { rule with action, title, description }

/-- What can vary in a contract: its document type, its first rule as rules can,
and the rules after the first one in any way. -/
inductive PolicyVariation : Policy → Policy → Prop
  | documentType (policy : Policy) (documentType : Text) :
      PolicyVariation policy { policy with documentType }
  | firstRule {first other : Rule} (later : List Rule) (documentType : Text) :
      RuleVariation first other →
      PolicyVariation { rules := first :: later, documentType }
        { rules := other :: later, documentType }
  | laterRules (first : Rule) (later others : List Rule) (documentType : Text) :
      PolicyVariation { rules := first :: later, documentType }
        { rules := first :: others, documentType }

theorem ConstraintsVariation.pairingsOf_eq {constraints others : List Constraint}
    (variation : ConstraintsVariation constraints others) :
    pairingsOf constraints = pairingsOf others := by
  cases variation with
  | order perm => exact Multiset.coe_eq_coe.mpr (perm.map _)
  | details before after constraint value informationPoint =>
      simp only [pairingsOf, List.map_append, List.map_cons]
      rfl

theorem RuleVariation.shape_eq {rule other : Rule} (variation : RuleVariation rule other) :
    rule.shape = other.shape := by
  cases variation with
  | constraints constraintsVary =>
      simp only [Rule.shape, constraintsVary.pairingsOf_eq]
  | dutyOrder perm =>
      simp only [Rule.shape, Multiset.coe_eq_coe.mpr (perm.map Duty.shape)]
  | @dutyConstraints before after duty constraints duties_eq constraintsVary =>
      have duty_eq : duty.shape = { duty with constraints }.shape := by
        rw [Duty.shape, Duty.shape, constraintsVary.pairingsOf_eq]
      simp only [Rule.shape, duties_eq, List.map_append, List.map_cons, duty_eq]
  | wording action title description => rfl

theorem PolicyVariation.pattern_eq {policy other : Policy}
    (variation : PolicyVariation policy other) : policy.pattern = other.pattern := by
  cases variation with
  | documentType documentType => rfl
  | firstRule later documentType ruleVaries => exact Rule.pattern_eq_of_shape_eq ruleVaries.shape_eq
  | laterRules first later others documentType => rfl

namespace Policy

/-- Contracts whose first rules have one shape are recognised as the same.  Hence
nothing that leaves the shape of the first rule as it is changes what a contract is
recognised as, however often and in whatever combination it is varied. -/
theorem pattern_determined_by_first_shape (policy other : Policy) :
    (∀ first otherFirst, policy.rules.head? = some first → other.rules.head? = some otherFirst →
      first.shape = otherFirst.shape → policy.pattern = other.pattern) ∧
    (Relation.EqvGen PolicyVariation policy other → policy.pattern = other.pattern) := by
  constructor
  · intro first otherFirst first_eq otherFirst_eq same
    rcases policy with ⟨_ | ⟨rule, later⟩, documentType⟩
    · cases first_eq
    rcases other with ⟨_ | ⟨otherRule, otherLater⟩, otherType⟩
    · cases otherFirst_eq
    obtain rfl : rule = first := Option.some.inj first_eq
    obtain rfl : otherRule = otherFirst := Option.some.inj otherFirst_eq
    exact Rule.pattern_eq_of_shape_eq same
  · intro variations
    induction variations with
    | rel _ _ variation => exact variation.pattern_eq
    | refl _ => rfl
    | symm _ _ _ ih => exact ih.symm
    | trans _ _ _ _ _ first_ih second_ih => exact first_ih.trans second_ih

/-- A permission under constraints, with the duty to delete at a moment. -/
def deletionRule (constraints : List Constraint) : Rule where
  kind := .permission
  constraints := constraints
  duties := [{ action := .delete, constraints := [Example.timeConstraint .temporalEquals] }]

/-- An interval can be bounded in either order, and a prohibition can follow. -/
theorem deletionRule_pattern_eq :
    let policy : Policy := { rules := [deletionRule Example.interval] }
    let other : Policy :=
      { rules := [deletionRule Example.interval.reverse, { kind := .prohibition }] }
    (∃ first otherFirst, policy.rules.head? = some first ∧
      other.rules.head? = some otherFirst ∧ first.shape = otherFirst.shape ∧
      policy.pattern = other.pattern) ∧
    Relation.EqvGen PolicyVariation policy other ∧ policy.pattern = other.pattern := by
  intro policy other
  have ruleVaries : RuleVariation (deletionRule Example.interval)
      (deletionRule Example.interval.reverse) :=
    .constraints (.order (List.reverse_perm _).symm)
  have varies : Relation.EqvGen PolicyVariation policy other :=
    .trans _ _ _ (.rel _ _ (.firstRule [] defaultDocumentType ruleVaries))
      (.rel _ _ (.laterRules _ [] [{ kind := .prohibition }] defaultDocumentType))
  obtain ⟨ofShape, ofVariation⟩ := pattern_determined_by_first_shape policy other
  exact ⟨⟨_, _, rfl, rfl, ruleVaries.shape_eq, ofShape _ _ rfl rfl ruleVaries.shape_eq⟩,
    varies, ofVariation varies⟩

end Policy

end UsageContracts
