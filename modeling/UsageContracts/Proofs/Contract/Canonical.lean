import Mathlib.Data.List.Perm.Basic
import Mathlib.Tactic.Common
import UsageContracts.Contract.Policy

/-!
# The canonical order of rules

A document lists the rules of each kind together.  The canonical form of a
contract has its rules in the order that this leaves: the rules of the first
rule's kind, then the others, each group in its former order.  It also has a
document type.

A list of rules is in this order exactly when no rule stands between two rules
of the other kind.
-/

namespace UsageContracts

/-- The rules of the first rule's kind ahead of those of the other kind; within
both groups the order is kept. -/
def groupByKind (rules : List Rule) : List Rule :=
  match rules with
  | [] => []
  | first :: _ =>
      rules.filter (·.kind = first.kind) ++ rules.filter (·.kind = first.kind.opposite)

/-- Whatever stands between two rules of one kind is of that kind. -/
def HasContiguousKinds (rules : List Rule) : Prop :=
  ∀ first middle last, [first, middle, last].Sublist rules →
    first.kind = last.kind → middle.kind = first.kind

/-- The form that a contract takes in its document: the rules are grouped by
kind, and an empty document type gives way to the default one. -/
def Policy.canonical (policy : Policy) : Policy where
  rules := groupByKind policy.rules
  documentType :=
    if policy.documentType.isEmpty then defaultDocumentType else policy.documentType

namespace RuleKind

@[simp]
theorem opposite_ne (kind : RuleKind) : kind.opposite ≠ kind := by
  cases kind <;> decide

/-- There are only two kinds. -/
theorem eq_opposite_iff_ne (kind other : RuleKind) : kind = other.opposite ↔ kind ≠ other := by
  cases kind <;> cases other <;> decide

end RuleKind

/-! ## What grouping keeps -/

theorem groupByKind_of_head? {rules : List Rule} {first : Rule}
    (head_eq : rules.head? = some first) :
    groupByKind rules =
      rules.filter (·.kind = first.kind) ++ rules.filter (·.kind = first.kind.opposite) := by
  cases rules with
  | nil => simp at head_eq
  | cons leader rest =>
      obtain rfl : leader = first := by simpa using head_eq
      rfl

/-- The first rule stays the first one. -/
theorem head?_groupByKind (rules : List Rule) : (groupByKind rules).head? = rules.head? := by
  cases rules with
  | nil => rfl
  | cons first rest => simp [groupByKind]

/-- Grouping only moves rules. -/
theorem groupByKind_perm (rules : List Rule) : (groupByKind rules).Perm rules := by
  cases rules with
  | nil => exact List.Perm.refl _
  | cons first rest =>
      have others : ∀ rule : Rule,
          decide (rule.kind = first.kind.opposite) = !decide (rule.kind = first.kind) := by
        intro rule
        simp [RuleKind.eq_opposite_iff_ne]
      simp only [groupByKind, others]
      exact List.filter_append_perm _ _

private theorem filter_filter_kind (rules : List Rule) (kind other : RuleKind) :
    (rules.filter (·.kind = other)).filter (·.kind = kind) =
      if other = kind then rules.filter (·.kind = kind) else [] := by
  rw [List.filter_filter]
  by_cases other_eq : other = kind
  · subst other
    simp
  · rw [if_neg other_eq, List.filter_eq_nil_iff]
    intro rule _ both
    simp only [Bool.and_eq_true, decide_eq_true_eq] at both
    exact other_eq (both.2.symm.trans both.1)

/-- The rules of one kind keep their order. -/
theorem filter_groupByKind (rules : List Rule) (kind : RuleKind) :
    (groupByKind rules).filter (·.kind = kind) = rules.filter (·.kind = kind) := by
  cases rules with
  | nil => rfl
  | cons first rest =>
      rw [groupByKind, List.filter_append, filter_filter_kind, filter_filter_kind]
      by_cases kind_eq : kind = first.kind
      · simp [kind_eq]
      · have opposite_eq := (RuleKind.eq_opposite_iff_ne kind first.kind).mpr kind_eq
        rw [if_neg (Ne.symm kind_eq), if_pos opposite_eq.symm, List.nil_append]

/-- Grouped rules are not moved by grouping them again. -/
theorem groupByKind_groupByKind (rules : List Rule) :
    groupByKind (groupByKind rules) = groupByKind rules := by
  cases rules with
  | nil => rfl
  | cons first rest =>
      have head_eq : (groupByKind (first :: rest)).head? = some first :=
        head?_groupByKind (first :: rest)
      rw [groupByKind_of_head? head_eq, filter_groupByKind, filter_groupByKind, groupByKind]

/-! ## What is grouped already -/

/-- A kind is ahead in a list if no rule of it follows one of the other kind. -/
private def IsAhead (kind : RuleKind) (rules : List Rule) : Prop :=
  rules.Pairwise fun earlier later => later.kind = kind → earlier.kind = kind

private theorem isAhead_of_grouped (kind : RuleKind) (rules : List Rule)
    (grouped : rules.filter (·.kind = kind) ++ rules.filter (·.kind = kind.opposite) = rules) :
    IsAhead kind rules := by
  rw [IsAhead, ← grouped, List.pairwise_append]
  refine ⟨?_, ?_, ?_⟩
  · refine List.pairwise_filter.mpr (List.pairwise_of_forall ?_)
    intro earlier later earlier_eq _ _
    simpa using earlier_eq
  · refine List.pairwise_filter.mpr (List.pairwise_of_forall ?_)
    intro earlier later _ later_eq later_kind
    simp only [decide_eq_true_eq, RuleKind.eq_opposite_iff_ne] at later_eq
    exact absurd later_kind later_eq
  · intro earlier earlierMem later _ _
    simpa using (List.mem_filter.mp earlierMem).2

private theorem grouped_of_isAhead (kind : RuleKind) (rules : List Rule)
    (ahead : IsAhead kind rules) :
    rules.filter (·.kind = kind) ++ rules.filter (·.kind = kind.opposite) = rules := by
  induction rules with
  | nil => rfl
  | cons rule rules ih =>
      rcases List.pairwise_cons.mp ahead with ⟨before, aheadRest⟩
      have grouped := ih aheadRest
      by_cases kind_eq : rule.kind = kind
      · have kind_ne : rule.kind ≠ kind.opposite := by simp [RuleKind.eq_opposite_iff_ne, kind_eq]
        rw [List.filter_cons_of_pos (by simpa using kind_eq),
          List.filter_cons_of_neg (by simpa using kind_ne), List.cons_append, grouped]
      · have none_left : rules.filter (·.kind = kind) = [] := by
          rw [List.filter_eq_nil_iff]
          intro later laterMem later_eq
          exact kind_eq (before later laterMem (by simpa using later_eq))
        have opposite_eq := (RuleKind.eq_opposite_iff_ne rule.kind kind).mpr kind_eq
        rw [none_left, List.nil_append] at grouped
        rw [List.filter_cons_of_neg (by simpa using kind_eq), none_left,
          List.filter_cons_of_pos (by simpa using opposite_eq), List.nil_append, grouped]

private theorem isAhead_iff_hasContiguousKinds (first : Rule) (rest : List Rule) :
    IsAhead first.kind (first :: rest) ↔ HasContiguousKinds (first :: rest) := by
  constructor
  · intro ahead earlier middle later sublist kind_eq
    have pairs := List.Pairwise.sublist sublist ahead
    simp only [List.pairwise_cons, List.mem_cons, List.not_mem_nil, or_false] at pairs
    rcases pairs with ⟨fromEarlier, fromMiddle, -⟩
    by_cases later_eq : later.kind = first.kind
    · have middle_eq := fromMiddle later rfl later_eq
      exact middle_eq.trans (kind_eq.trans later_eq).symm
    · have earlier_ne : earlier.kind ≠ first.kind := kind_eq ▸ later_eq
      have middle_ne : middle.kind ≠ first.kind :=
        fun middle_eq => earlier_ne (fromEarlier middle (.inl rfl) middle_eq)
      rw [← RuleKind.eq_opposite_iff_ne] at earlier_ne middle_ne
      exact middle_ne.trans earlier_ne.symm
  · intro contiguous
    refine List.pairwise_cons.mpr ⟨fun _ _ _ => rfl, ?_⟩
    rw [List.pairwise_iff_forall_sublist]
    intro middle later sublist later_eq
    exact contiguous first middle later (sublist.cons_cons first) later_eq.symm

/-- Grouping changes nothing exactly when the rules of each kind are
contiguous. -/
theorem groupByKind_eq_self_iff (rules : List Rule) :
    groupByKind rules = rules ↔ HasContiguousKinds rules := by
  cases rules with
  | nil => simp [groupByKind, HasContiguousKinds]
  | cons first rest =>
      rw [← isAhead_iff_hasContiguousKinds]
      exact ⟨isAhead_of_grouped first.kind _, grouped_of_isAhead first.kind _⟩

/-- The rules of each kind are contiguous once they are grouped. -/
theorem hasContiguousKinds_groupByKind (rules : List Rule) :
    HasContiguousKinds (groupByKind rules) :=
  (groupByKind_eq_self_iff _).mp (groupByKind_groupByKind rules)

namespace Policy

theorem documentType_canonical_ne_nil (policy : Policy) : policy.canonical.documentType ≠ [] := by
  by_cases empty : policy.documentType = []
  · have default_ne : defaultDocumentType ≠ [] := by decide
    simpa [canonical, empty] using default_ne
  · simp [canonical, empty]

theorem canonical_eq_self_iff (policy : Policy) :
    policy.canonical = policy ↔ HasContiguousKinds policy.rules ∧ policy.documentType ≠ [] := by
  rw [← groupByKind_eq_self_iff]
  constructor
  · intro canonical_eq
    refine ⟨congrArg rules canonical_eq, ?_⟩
    rw [← congrArg documentType canonical_eq]
    exact policy.documentType_canonical_ne_nil
  · rintro ⟨grouped, named⟩
    simp [canonical, grouped, named]

/-- The canonical form of a canonical form is itself. -/
theorem canonical_canonical (policy : Policy) : policy.canonical.canonical = policy.canonical :=
  policy.canonical.canonical_eq_self_iff.mpr
    ⟨hasContiguousKinds_groupByKind policy.rules, policy.documentType_canonical_ne_nil⟩

end Policy

end UsageContracts
