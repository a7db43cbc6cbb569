import Mathlib.Data.List.Perm.Basic
import Mathlib.Tactic.Common
import UsageContracts.Contract.Review
import UsageContracts.Contract.Signature

/-!
# What follows a pattern

The patterns are described here by what a rule consists of, without the order in
which signatures are tried.  No rule follows two patterns, so that the order
does not matter: a rule bears at most one signature, and it is recognised as the
pattern of that signature whatever the order of the table.
-/

namespace UsageContracts

/-- What a constraint relates, and how. -/
abbrev Pairing := Operand × Operator

/-- What a duty demands, whatever the values of its constraints are. -/
def Duty.demand (duty : Duty) : Action × List Pairing :=
  (duty.action, duty.constraints.map Constraint.pairing)

/-- Pairings that bound the time of evaluation on both sides. -/
def intervalPairings : List Pairing :=
  [(.policyEvaluationTime, .after), (.policyEvaluationTime, .before)]

namespace Rule

/-- The pairings of the constraints of a rule. -/
def pairings (rule : Rule) : List Pairing :=
  rule.constraints.map Constraint.pairing

/-- The demands of the duties of a rule. -/
def demands (rule : Rule) : List (Action × List Pairing) :=
  rule.duties.map Duty.demand

/-- Whether a rule follows a pattern.  The constraints of an interval can stand in
either order, and rules whose uses or whose time are bounded can bring any
duties. -/
def Follows (rule : Rule) : Pattern → Prop
  | .prohibitAccess => rule.kind = .prohibition ∧ rule.pairings = [] ∧ rule.demands = []
  | .nTimesUsage => rule.kind = .permission ∧ rule.pairings = [(.count, .atMost)]
  | .durationUsage =>
      rule.kind = .permission ∧ rule.pairings = [(.elapsedTime, .shorterOrEqual)]
  | .usageUntilDeletion =>
      rule.kind = .permission ∧ rule.pairings.Perm intervalPairings ∧
        rule.demands = [(.delete, [(.policyEvaluationTime, .temporalEquals)])]
  | .usageDuringInterval =>
      rule.kind = .permission ∧ rule.pairings.Perm intervalPairings ∧ rule.demands = []
  | .usageLogging =>
      rule.kind = .permission ∧ rule.pairings = [] ∧ rule.demands = [(.log, [])]
  | .usageNotification =>
      rule.kind = .permission ∧ rule.pairings = [] ∧
        rule.demands = [(.notify, [(.endpoint, .definesAs)])]
  | .provideAccess => rule.kind = .permission ∧ rule.pairings = [] ∧ rule.demands = []
  | .notRecognized => False

end Rule

/-! ## Tests on lists of constraints and duties -/

theorem Constraint.relates_iff {constraint : Constraint} {operand : Operand}
    {operator : Operator} :
    constraint.relates operand operator = true ↔ constraint.pairing = (operand, operator) := by
  simp [relates, pairing]

namespace Rule

variable {rule : Rule}

theorem constraints_eq_nil_iff : rule.constraints = [] ↔ rule.pairings = [] := by
  simp [pairings]

theorem duties_eq_nil_iff : rule.duties = [] ↔ rule.demands = [] := by
  simp [demands]

theorem isPermission_iff : rule.isPermission = true ↔ rule.kind = .permission := by
  simp [isPermission]

theorem hasSingleConstraint_iff {operand : Operand} {operator : Operator} :
    rule.hasSingleConstraint operand operator = true ↔
      rule.kind = .permission ∧ rule.pairings = [(operand, operator)] := by
  rw [hasSingleConstraint, Bool.and_eq_true, isPermission_iff, pairings]
  match rule.constraints with
  | [] => simp
  | [constraint] => simp [Constraint.relates_iff]
  | first :: second :: rest => simp

theorem pair_perm_intervalPairings_iff {first second : Pairing} :
    [first, second].Perm intervalPairings ↔
      first = (.policyEvaluationTime, .after) ∧ second = (.policyEvaluationTime, .before) ∨
        first = (.policyEvaluationTime, .before) ∧ second = (.policyEvaluationTime, .after) := by
  constructor
  · intro perm
    have firstMember : first ∈ intervalPairings := perm.subset List.mem_cons_self
    rcases List.mem_pair.mp firstMember with rfl | rfl
    · have rest := (List.perm_cons _).mp perm
      exact .inl ⟨rfl, by simpa using rest⟩
    · have rest := (List.perm_cons _).mp (perm.trans (List.Perm.swap _ _ []))
      exact .inr ⟨rfl, by simpa using rest⟩
  · rintro (⟨rfl, rfl⟩ | ⟨rfl, rfl⟩)
    · exact List.Perm.refl _
    · exact List.Perm.swap _ _ []

theorem hasInterval_iff :
    rule.hasInterval = true ↔
      rule.kind = .permission ∧ rule.pairings.Perm intervalPairings := by
  have ofLength {pairings : List Pairing} (perm : pairings.Perm intervalPairings) :
      pairings.length = 2 :=
    perm.length_eq
  rw [hasInterval, Bool.and_eq_true, isPermission_iff, pairings]
  match rule.constraints with
  | [first, second] =>
      simp [Constraint.relates_iff, pair_perm_intervalPairings_iff]
  | [] =>
      have notPair := mt (@ofLength []) (by simp)
      simp [notPair]
  | [constraint] =>
      have notPair := mt (@ofLength [constraint.pairing]) (by simp)
      simp [notPair]
  | first :: second :: third :: rest =>
      have notPair :=
        mt (@ofLength ((first :: second :: third :: rest).map Constraint.pairing)) (by simp)
      simp only [notPair]
      simp

theorem onlyDuty?_eq_some_iff {duty : Duty} :
    rule.onlyDuty? = some duty ↔
      rule.kind = .permission ∧ rule.pairings = [] ∧ rule.duties = [duty] := by
  rw [← constraints_eq_nil_iff, onlyDuty?]
  split
  · next kind_eq constraints_eq duties_eq => simp [kind_eq, constraints_eq, duties_eq]
  · next other =>
      simp only [reduceCtorEq, false_iff]
      rintro ⟨kind_eq, constraints_eq, duties_eq⟩
      exact other duty kind_eq constraints_eq duties_eq

theorem exists_onlyDuty?_iff {demand : Action × List Pairing} :
    (∃ duty, rule.onlyDuty? = some duty ∧ duty.demand = demand) ↔
      rule.kind = .permission ∧ rule.pairings = [] ∧ rule.demands = [demand] := by
  simp only [onlyDuty?_eq_some_iff, demands, List.map_eq_singleton_iff]
  constructor
  · rintro ⟨duty, ⟨kind_eq, pairings_eq, duties_eq⟩, demand_eq⟩
    exact ⟨kind_eq, pairings_eq, duty, duties_eq, demand_eq⟩
  · rintro ⟨kind_eq, pairings_eq, duty, duties_eq, demand_eq⟩
    exact ⟨duty, ⟨kind_eq, pairings_eq, duties_eq⟩, demand_eq⟩

end Rule

theorem Duty.demand_eq_without_constraints_iff {duty : Duty} {action : Action} :
    (duty.action == action && duty.constraints.isEmpty) = true ↔ duty.demand = (action, []) := by
  simp [demand]

theorem Duty.demand_eq_with_constraint_iff {duty : Duty} {action : Action} {operand : Operand}
    {operator : Operator} :
    (duty.action == action &&
        match duty.constraints with
        | [constraint] => constraint.relates operand operator
        | _ => false) = true ↔
      duty.demand = (action, [(operand, operator)]) := by
  rw [demand, Bool.and_eq_true, Prod.mk.injEq, beq_iff_eq]
  match duty.constraints with
  | [] => simp
  | [constraint] => simp [Constraint.relates_iff]
  | first :: second :: rest => simp

namespace Rule

variable {rule : Rule}

/-! ## Signatures -/

theorem isProhibitAccess_iff : rule.isProhibitAccess = true ↔ rule.Follows .prohibitAccess := by
  simp [isProhibitAccess, isProhibition, constraints_eq_nil_iff, duties_eq_nil_iff, Follows,
    and_assoc]

theorem isProvideAccess_iff : rule.isProvideAccess = true ↔ rule.Follows .provideAccess := by
  simp [isProvideAccess, isPermission, constraints_eq_nil_iff, duties_eq_nil_iff, Follows,
    and_assoc]

theorem isUsageDuringInterval_iff :
    rule.isUsageDuringInterval = true ↔ rule.Follows .usageDuringInterval := by
  simp [isUsageDuringInterval, hasInterval_iff, duties_eq_nil_iff, Follows, and_assoc]

theorem isUsageUntilDeletion_iff :
    rule.isUsageUntilDeletion = true ↔ rule.Follows .usageUntilDeletion := by
  rw [isUsageUntilDeletion, Bool.and_eq_true, hasInterval_iff, Follows, and_assoc, demands]
  match rule.duties with
  | [] => simp
  | [duty] =>
      simp only [List.map_cons, List.map_nil, List.cons.injEq, and_true]
      exact and_congr_right fun _ => and_congr_right fun _ => Duty.demand_eq_with_constraint_iff
  | first :: second :: rest => simp

theorem isUsageLogging_iff : rule.isUsageLogging = true ↔ rule.Follows .usageLogging := by
  rw [Follows, ← exists_onlyDuty?_iff, isUsageLogging]
  cases rule.onlyDuty? with
  | none => simp
  | some duty =>
      simp only [Option.some.injEq, exists_eq_left']
      exact Duty.demand_eq_without_constraints_iff

theorem isUsageNotification_iff :
    rule.isUsageNotification = true ↔ rule.Follows .usageNotification := by
  rw [Follows, ← exists_onlyDuty?_iff, isUsageNotification]
  cases rule.onlyDuty? with
  | none => simp
  | some duty =>
      simp only [Option.some.injEq, exists_eq_left']
      exact Duty.demand_eq_with_constraint_iff

/-- A signature is borne by the rules that follow its pattern. -/
theorem isBorneBy_iff_follows {signature : Signature} (member : signature ∈ signatures) :
    signature.isBorneBy rule = true ↔ rule.Follows signature.pattern := by
  simp only [signatures, List.mem_cons, List.not_mem_nil, or_false] at member
  rcases member with rfl | rfl | rfl | rfl | rfl | rfl | rfl | rfl
  · exact isProhibitAccess_iff
  · exact hasSingleConstraint_iff
  · exact hasSingleConstraint_iff
  · exact isUsageUntilDeletion_iff
  · exact isUsageDuringInterval_iff
  · exact isUsageLogging_iff
  · exact isUsageNotification_iff
  · exact isProvideAccess_iff

/-! ## At most one pattern -/

/-- No rule follows two patterns. -/
theorem follows_unique {first second : Pattern} (followsFirst : rule.Follows first)
    (followsSecond : rule.Follows second) : first = second := by
  cases first <;> cases second <;>
    simp_all [Follows, intervalPairings]

/-- Every pattern but the missing one has a signature. -/
theorem exists_signature_of_follows {pattern : Pattern} (follows : rule.Follows pattern) :
    ∃ signature ∈ signatures, signature.pattern = pattern := by
  cases pattern with
  | notRecognized => exact follows.elim
  | _ => simp [signatures]

theorem mem_bornePatterns_iff {pattern : Pattern} :
    pattern ∈ rule.bornePatterns ↔ rule.Follows pattern := by
  simp only [bornePatterns, List.mem_map, List.mem_filter]
  constructor
  · rintro ⟨signature, ⟨member, borne⟩, rfl⟩
    exact (isBorneBy_iff_follows member).mp borne
  · intro follows
    rcases exists_signature_of_follows follows with ⟨signature, member, rfl⟩
    exact ⟨signature, ⟨member, (isBorneBy_iff_follows member).mpr follows⟩, rfl⟩

theorem bornePatterns_nodup (rule : Rule) : rule.bornePatterns.Nodup := by
  have patternsNodup : (signatures.map (·.pattern)).Nodup := by
    decide
  exact patternsNodup.sublist (List.filter_sublist.map _)

/-- A rule bears the signature of a pattern that it follows, and no other. -/
theorem bornePatterns_eq_singleton {pattern : Pattern} (follows : rule.Follows pattern) :
    rule.bornePatterns = [pattern] := by
  have member := mem_bornePatterns_iff.mpr follows
  match patterns_eq : rule.bornePatterns with
  | [] => simp [patterns_eq] at member
  | [other] => simpa [patterns_eq, eq_comm] using member
  | first :: second :: rest =>
      have firstFollows : rule.Follows first := mem_bornePatterns_iff.mp (by simp [patterns_eq])
      have secondFollows : rule.Follows second := mem_bornePatterns_iff.mp (by simp [patterns_eq])
      have nodup := patterns_eq ▸ bornePatterns_nodup rule
      simp [follows_unique firstFollows secondFollows] at nodup

theorem bornePatterns_eq_nil_iff :
    rule.bornePatterns = [] ↔ ∀ pattern, ¬ rule.Follows pattern := by
  simp [List.eq_nil_iff_forall_not_mem, mem_bornePatterns_iff]

theorem bornePatterns_eq_nil_or_singleton (rule : Rule) :
    rule.bornePatterns = [] ∨ ∃ pattern, rule.bornePatterns = [pattern] := by
  by_cases followsOne : ∃ pattern, rule.Follows pattern
  · rcases followsOne with ⟨pattern, follows⟩
    exact .inr ⟨pattern, bornePatterns_eq_singleton follows⟩
  · exact .inl (bornePatterns_eq_nil_iff.mpr (not_exists.mp followsOne))

/-! ## The order of the table -/

/-- What a rule is recognised as is the first of the patterns whose signatures it
bears. -/
theorem patternIn_eq_head? (table : List Signature) :
    rule.patternIn table =
      ((table.filter (·.isBorneBy rule)).map (·.pattern)).head?.getD .notRecognized := by
  rw [patternIn, List.head?_map, List.head?_filter]
  cases table.find? (·.isBorneBy rule) <;> rfl

/-- A rule is recognised in the same way whatever the order of the signatures. -/
theorem patternIn_eq_of_perm {table : List Signature} (perm : table.Perm signatures) :
    rule.patternIn table = rule.patternIn signatures := by
  have bornePerm : ((table.filter (·.isBorneBy rule)).map (·.pattern)).Perm rule.bornePatterns :=
    (perm.filter _).map _
  have borne_eq : (table.filter (·.isBorneBy rule)).map (·.pattern) = rule.bornePatterns := by
    rcases bornePatterns_eq_nil_or_singleton rule with none_eq | ⟨pattern, single_eq⟩
    · rw [none_eq] at bornePerm ⊢
      exact List.perm_nil.mp bornePerm
    · rw [single_eq] at bornePerm ⊢
      exact List.perm_singleton.mp bornePerm
  rw [patternIn_eq_head?, borne_eq, patternIn_eq_head?, bornePatterns]

theorem pattern_eq_head? : rule.pattern = rule.bornePatterns.head?.getD .notRecognized :=
  patternIn_eq_head? signatures

theorem pattern_eq_of_follows {pattern : Pattern} (follows : rule.Follows pattern) :
    rule.pattern = pattern := by
  rw [pattern_eq_head?, bornePatterns_eq_singleton follows]
  rfl

theorem pattern_eq_notRecognized (followsNone : ∀ pattern, ¬ rule.Follows pattern) :
    rule.pattern = .notRecognized := by
  rw [pattern_eq_head?, bornePatterns_eq_nil_iff.mpr followsNone]
  rfl

theorem pattern_eq_iff {pattern : Pattern} :
    rule.pattern = pattern ↔
      rule.Follows pattern ∨ pattern = .notRecognized ∧ ∀ other, ¬ rule.Follows other := by
  constructor
  · rintro rfl
    by_cases followsOne : ∃ pattern, rule.Follows pattern
    · rcases followsOne with ⟨pattern, follows⟩
      exact .inl ((pattern_eq_of_follows follows).symm ▸ follows)
    · have followsNone := not_exists.mp followsOne
      exact .inr ⟨pattern_eq_notRecognized followsNone, followsNone⟩
  · rintro (follows | ⟨rfl, followsNone⟩)
    · exact pattern_eq_of_follows follows
    · exact pattern_eq_notRecognized followsNone

/-- A rule bears at most one signature, that of the pattern that it follows.  It is
recognised as this pattern, or as none if it follows none, in whatever order the
signatures are tried. -/
theorem recognised_as_followed (rule : Rule) :
    rule.bornePatterns.length ≤ 1 ∧
      (∀ signature ∈ signatures,
        (signature.isBorneBy rule = true ↔ rule.Follows signature.pattern)) ∧
      (∀ pattern, rule.pattern = pattern ↔
        rule.Follows pattern ∨ pattern = .notRecognized ∧ ∀ other, ¬ rule.Follows other) ∧
      ∀ table, table.Perm signatures → rule.patternIn table = rule.pattern := by
  refine ⟨?_, fun _ => isBorneBy_iff_follows, fun _ => pattern_eq_iff,
    fun _ => patternIn_eq_of_perm⟩
  rcases bornePatterns_eq_nil_or_singleton rule with none_eq | ⟨pattern, single_eq⟩
  · simp [none_eq]
  · simp [single_eq]

end Rule

end UsageContracts
