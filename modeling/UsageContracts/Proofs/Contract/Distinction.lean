import UsageContracts.Proofs.Contract.Halves
import UsageContracts.Proofs.Contract.Whole
import UsageContracts.Proofs.Json.Distinction

/-!
# What the text of a contract tells

Contracts with the same text have the same document type, permissions and
prohibitions, and their first rules have the same kind.  The text does not tell how
permissions and prohibitions are interleaved.  Nor does it tell a code point whose
number has more than four hexadecimal digits from the two halves of its surrogate
pair, so that texts are compared by their halves.
-/

namespace UsageContracts

/-! ## Whole code points -/

theorem CodePoint.halves_append_inj {character otherCharacter : Char} {rest otherRest : Text}
    (same : halves character ++ rest = halves otherCharacter ++ otherRest) :
    character = otherCharacter ∧ rest = otherRest := by
  have bound := number_lt character
  have otherBound := number_lt otherCharacter
  unfold halves at same
  by_cases basic : (scalar character).number < 0x10000
  · by_cases otherBasic : (scalar otherCharacter).number < 0x10000
    · simpa [basic, otherBasic] using same
    · simp [basic, otherBasic] at same
  · by_cases otherBasic : (scalar otherCharacter).number < 0x10000
    · simp [basic, otherBasic] at same
    · simp only [basic, otherBasic, if_false, List.cons_append, List.nil_append, List.cons.injEq,
        surrogate.injEq, Fin.ext_iff, Fin.val_ofNat] at same
      refine ⟨scalar.inj (number_injective ?_), same.2.2⟩
      omega

theorem Text.halved_inj {text other : Text} (whole : text.IsWhole) (otherWhole : other.IsWhole)
    (same : text.halved = other.halved) : text = other := by
  induction text generalizing other with
  | nil => exact (halved_eq_nil_iff.mp same.symm).symm
  | cons point rest ih =>
      cases other with
      | nil => exact halved_eq_nil_iff.mp same
      | cons otherPoint otherRest =>
          cases point with
          | surrogate half => cases whole _ List.mem_cons_self
          | scalar character =>
              cases otherPoint with
              | surrogate half => cases otherWhole _ List.mem_cons_self
              | scalar otherCharacter =>
                  rw [halved, halved, List.flatMap_cons, List.flatMap_cons] at same
                  rcases CodePoint.halves_append_inj same with ⟨rfl, rest_eq⟩
                  have inRest : rest = otherRest :=
                    ih (fun point member => whole point (List.mem_cons_of_mem _ member))
                      (fun point member => otherWhole point (List.mem_cons_of_mem _ member)) rest_eq
                  rw [inRest]

theorem eq_of_map_eq {α β : Type} {change : α → β} {items others : List α}
    (inj : ∀ item ∈ items, ∀ other ∈ others, change item = change other → item = other)
    (same : items.map change = others.map change) : items = others := by
  rw [← List.forall₂_eq_eq_eq] at same ⊢
  rw [List.forall₂_map_left_iff, List.forall₂_map_right_iff] at same
  induction same with
  | nil => exact .nil
  | cons change_eq _ ih =>
      refine .cons (inj _ List.mem_cons_self _ List.mem_cons_self change_eq) (ih ?_)
      exact fun item member other otherMember =>
        inj item (List.mem_cons_of_mem _ member) other (List.mem_cons_of_mem _ otherMember)

/-- Lists whose items are known by their texts are known by their texts. -/
theorem eq_of_map_halved_eq {α : Type} {texts : α → List Text} {halved : α → α}
    {items others : List α}
    (inj : ∀ item other : α, (∀ text ∈ texts item, text.IsWhole) →
      (∀ text ∈ texts other, text.IsWhole) → halved item = halved other → item = other)
    (whole : ∀ text ∈ items.flatMap texts, text.IsWhole)
    (otherWhole : ∀ text ∈ others.flatMap texts, text.IsWhole)
    (same : items.map halved = others.map halved) : items = others :=
  eq_of_map_eq
    (fun item member other otherMember => inj item other
      (fun text inItem => whole text (List.mem_flatMap_of_mem member inItem))
      (fun text inOther => otherWhole text (List.mem_flatMap_of_mem otherMember inOther)))
    same

theorem Constraint.halved_inj (constraint other : Constraint)
    (whole : ∀ text ∈ constraint.texts, text.IsWhole)
    (otherWhole : ∀ text ∈ other.texts, text.IsWhole)
    (same : constraint.halved = other.halved) : constraint = other := by
  rcases constraint with ⟨operand, operator, ⟨text, datatype⟩, point⟩
  rcases other with ⟨otherOperand, otherOperator, ⟨otherText, otherDatatype⟩, otherPoint⟩
  simp only [texts, List.forall_mem_cons, Option.mem_toList] at whole otherWhole
  simp only [halved, mk.injEq, TypedValue.mk.injEq] at same
  rcases same with ⟨rfl, rfl, ⟨text_eq, rfl⟩, point_eq⟩
  obtain rfl := Text.halved_inj whole.1 otherWhole.1 text_eq
  cases point with
  | none =>
      cases otherPoint with
      | none => rfl
      | some => cases point_eq
  | some endpoint =>
      cases otherPoint with
      | none => cases point_eq
      | some otherEndpoint =>
          have endpoint_eq := Text.halved_inj (whole.2 _ rfl) (otherWhole.2 _ rfl)
            (Option.some.inj point_eq)
          rw [endpoint_eq]

theorem Duty.halved_inj (duty other : Duty) (whole : ∀ text ∈ duty.texts, text.IsWhole)
    (otherWhole : ∀ text ∈ other.texts, text.IsWhole) (same : duty.halved = other.halved) :
    duty = other := by
  rcases duty with ⟨action, constraints⟩
  rcases other with ⟨otherAction, otherConstraints⟩
  simp only [halved, mk.injEq] at same
  rcases same with ⟨rfl, constraints_eq⟩
  obtain rfl := eq_of_map_halved_eq Constraint.halved_inj whole otherWhole constraints_eq
  rfl

theorem Rule.halved_inj (rule other : Rule) (whole : ∀ text ∈ rule.texts, text.IsWhole)
    (otherWhole : ∀ text ∈ other.texts, text.IsWhole) (same : rule.halved = other.halved) :
    rule = other := by
  rcases rule with ⟨kind, action, constraints, duties, title, description⟩
  rcases other with ⟨otherKind, otherAction, otherConstraints, otherDuties, otherTitle,
    otherDescription⟩
  simp only [texts, List.forall_mem_append, List.forall_mem_cons] at whole otherWhole
  rcases whole with ⟨⟨⟨titleWhole, descriptionWhole, -⟩, constraintsWhole⟩, dutiesWhole⟩
  rcases otherWhole with
    ⟨⟨⟨otherTitleWhole, otherDescriptionWhole, -⟩, otherConstraintsWhole⟩, otherDutiesWhole⟩
  simp only [halved, mk.injEq] at same
  rcases same with ⟨rfl, rfl, constraints_eq, duties_eq, title_eq, description_eq⟩
  obtain rfl := eq_of_map_halved_eq Constraint.halved_inj constraintsWhole otherConstraintsWhole
    constraints_eq
  obtain rfl := eq_of_map_halved_eq Duty.halved_inj dutiesWhole otherDutiesWhole duties_eq
  obtain rfl := Text.halved_inj titleWhole otherTitleWhole title_eq
  obtain rfl := Text.halved_inj descriptionWhole otherDescriptionWhole description_eq
  rfl

namespace Policy

/-! ## Contracts that differ in the order of kinds -/

/-- Whether two contracts differ at most in how their permissions and prohibitions
are interleaved, if the first rules are of one kind. -/
structure SameByKind (policy other : Policy) : Prop where
  documentType : policy.documentType = other.documentType
  rules : ∀ kind, policy.rulesOf kind = other.rulesOf kind
  firstKind : (∀ kind, policy.rulesOf kind ≠ []) →
    policy.rules.head?.map (·.kind) = other.rules.head?.map (·.kind)

variable {policy other : Policy}

theorem leadingKind_eq_head? (policy : Policy) :
    policy.leadingKind = (policy.rules.head?.map (·.kind)).getD .permission := by
  rw [leadingKind]
  cases policy.rules <;> rfl

theorem rulesOf_eq_filter_groupByKind (policy : Policy) (kind : RuleKind) :
    policy.rulesOf kind = (groupByKind policy.rules).filter (·.kind = kind) := by
  rw [filter_groupByKind]
  simp only [rulesOf, beq_eq_decide]

/-- Without rules of one kind the rules of the other kind come first. -/
theorem leadingKind_of_rulesOf_eq_nil {kind : RuleKind} (none : policy.rulesOf kind = []) :
    policy.leadingKind =
      if policy.rulesOf kind.opposite = [] then .permission else kind.opposite := by
  rcases policy with ⟨_ | ⟨first, rest⟩, documentType⟩
  · rfl
  · have notKind : first.kind ≠ kind := by
      rintro rfl
      simp [rulesOf] at none
    have kind_eq : first.kind = kind.opposite :=
      (RuleKind.eq_opposite_iff_ne _ _).mpr notKind
    simp [leadingKind, rulesOf, kind_eq]

theorem SameByKind.leadingKind_eq (same : policy.SameByKind other) :
    policy.leadingKind = other.leadingKind := by
  by_cases both : ∀ kind, policy.rulesOf kind ≠ []
  · rw [leadingKind_eq_head?, leadingKind_eq_head?, same.firstKind both]
  · rcases not_forall.mp both with ⟨kind, notNone⟩
    have none := not_not.mp notNone
    have otherNone : other.rulesOf kind = [] := same.rules kind ▸ none
    rw [leadingKind_of_rulesOf_eq_nil none, leadingKind_of_rulesOf_eq_nil otherNone, same.rules]

/-- Such contracts have the same document. -/
theorem SameByKind.toDocument_eq (same : policy.SameByKind other) :
    policy.toDocument = other.toDocument := by
  simp only [toDocument, groupMember, same.documentType, same.leadingKind_eq, same.rules]

theorem sameByKind_of_canonical_eq (documentType_eq : policy.documentType = other.documentType)
    (canonical_eq : policy.canonical = other.canonical) : policy.SameByKind other where
  documentType := documentType_eq
  rules kind := by
    have rules_eq : groupByKind policy.rules = groupByKind other.rules :=
      congrArg Policy.rules canonical_eq
    rw [rulesOf_eq_filter_groupByKind, rulesOf_eq_filter_groupByKind, rules_eq]
  firstKind _ := by
    have rules_eq : groupByKind policy.rules = groupByKind other.rules :=
      congrArg Policy.rules canonical_eq
    rw [← head?_groupByKind, rules_eq, head?_groupByKind]

theorem head?_halved (policy : Policy) :
    policy.halved.rules.head?.map (·.kind) = policy.rules.head?.map (·.kind) := by
  rw [halved, List.head?_map, Option.map_map]
  rfl

/-- Contracts of whole code points are told apart by their halves. -/
theorem halved_sameByKind_iff (whole : policy.IsWhole) (otherWhole : other.IsWhole) :
    policy.halved.SameByKind other.halved ↔ policy.SameByKind other := by
  have rules_iff (kind : RuleKind) :
      policy.halved.rulesOf kind = other.halved.rulesOf kind ↔
        policy.rulesOf kind = other.rulesOf kind := by
    rw [rulesOf_halved, rulesOf_halved]
    constructor
    · exact eq_of_map_halved_eq Rule.halved_inj (whole.rulesOf kind) (otherWhole.rulesOf kind)
    · exact congrArg _
  have nil_iff (kind : RuleKind) : policy.halved.rulesOf kind = [] ↔ policy.rulesOf kind = [] := by
    rw [rulesOf_halved, List.map_eq_nil_iff]
  constructor
  · intro same
    constructor
    case documentType =>
      exact Text.halved_inj (whole _ List.mem_cons_self) (otherWhole _ List.mem_cons_self)
        same.documentType
    case rules => exact fun kind => (rules_iff kind).mp (same.rules kind)
    case firstKind =>
      intro both
      rw [← policy.head?_halved, ← other.head?_halved]
      exact same.firstKind fun kind => (nil_iff kind).not.mpr (both kind)
  · intro same
    constructor
    case documentType => exact congrArg Text.halved same.documentType
    case rules => exact fun kind => (rules_iff kind).mpr (same.rules kind)
    case firstKind =>
      intro both
      rw [policy.head?_halved, other.head?_halved]
      exact same.firstKind fun kind => (nil_iff kind).not.mp (both kind)

/-! ## Texts -/

/-- The document type stands at the same place in the texts of all contracts. -/
theorem exists_dump_eq_append (layout : Layout) :
    ∃ before : Text, ∀ policy : Policy, ∃ after : Text,
      policy.dump layout = before ++ (Json.quote policy.documentType ++ after) := by
  refine ⟨.scalar '\x7b' :: layout.lineBreak 1 ++
    Json.writeMember layout 1 (member "@context" context) ++ layout.separator 1 ++
    (Json.quote "@type" ++ ": "), fun policy => ?_⟩
  simp only [dump, toDocument, Json.write, List.cons_append, Json.writeAt, Json.writeMembers,
    Json.writeMember, member, List.append_assoc]
  exact ⟨_, rfl⟩

/-- The text of contracts tells their halves up to the interleaving of kinds. -/
theorem dump_eq_iff_halved {layout : Layout} (spaced : layout.IsSpaced) :
    policy.dump layout = other.dump layout ↔ policy.halved.SameByKind other.halved := by
  constructor
  · intro dump_eq
    apply sameByKind_of_canonical_eq
    -- The reader puts a default in the place of an empty document type, so that the
    -- type has to be found in the text itself; the rules are those that are read.
    · rcases exists_dump_eq_append layout with ⟨before, dump_eq_append⟩
      rcases dump_eq_append policy with ⟨after, policy_eq⟩
      rcases dump_eq_append other with ⟨otherAfter, other_eq⟩
      rw [policy_eq, other_eq] at dump_eq
      exact Json.halved_eq_of_quote_append_eq (List.append_cancel_left dump_eq)
    · have read_eq := policy.ofText_dump_eq_halved spaced
      rw [dump_eq, other.ofText_dump_eq_halved spaced] at read_eq
      rw [canonical_halved, canonical_halved, Except.ok.inj read_eq]
  · intro same
    rw [← policy.dump_halved, ← other.dump_halved, dump, dump, same.toDocument_eq]

variable (policy other)

/-- With null or an integer of at most 64 bits as their indent, contracts have texts,
which are the same exactly if the contracts with halves are the same up to the
interleaving of kinds.  Contracts of whole code points need not be halved for
that. -/
theorem dump_eq_iff (indent : Option Int) :
    ((∃ layout, Layout.ofValue (indentValue indent) = .ok layout) ↔
      IsIndent (indentValue indent)) ∧
    ∀ layout, Layout.ofValue (indentValue indent) = .ok layout →
      (policy.dump layout = other.dump layout ↔ policy.halved.SameByKind other.halved) ∧
      (policy.IsWhole → other.IsWhole →
        (policy.dump layout = other.dump layout ↔ policy.SameByKind other)) := by
  constructor
  · constructor
    · rintro ⟨layout, layout_eq⟩
      exact (isIndent_of_ofValue_eq_ok layout_eq).1
    · intro isIndent
      rcases isIndent.exists_layout with ⟨layout, layout_eq, -⟩
      exact ⟨layout, layout_eq⟩
  · intro layout layout_eq
    have halved_iff : policy.dump layout = other.dump layout ↔
        policy.halved.SameByKind other.halved :=
      dump_eq_iff_halved (isIndent_of_ofValue_eq_ok layout_eq).2
    exact ⟨halved_iff, fun whole otherWhole =>
      halved_iff.trans (halved_sameByKind_iff whole otherWhole)⟩

/-- Two permissions with a prohibition between them. -/
def interleavedSample : Policy where
  rules :=
    [{ kind := .permission, title := "first" }, { kind := .prohibition, title := "none" },
      { kind := .permission, title := "last" }]

/-- Two permissions with a prohibition after them. -/
def regroupedSample : Policy where
  rules :=
    [{ kind := .permission, title := "first" }, { kind := .permission, title := "last" },
      { kind := .prohibition, title := "none" }]

theorem interleavedSample_sameByKind : interleavedSample.SameByKind regroupedSample where
  documentType := rfl
  rules kind := by cases kind <;> rfl
  firstKind _ := rfl

theorem interleavedSample_dump_eq :
    Layout.ofValue (indentValue (some 2)) = .ok (.ofSpaces 2) ∧
      interleavedSample.IsWhole ∧ regroupedSample.IsWhole ∧
      interleavedSample.dump (.ofSpaces 2) = regroupedSample.dump (.ofSpaces 2) := by
  have whole : interleavedSample.IsWhole ∧ regroupedSample.IsWhole := by
    decide
  rcases (dump_eq_iff interleavedSample regroupedSample (some 2)).2 _ rfl with ⟨-, same_iff⟩
  exact ⟨rfl, whole.1, whole.2,
    (same_iff whole.1 whole.2).mpr interleavedSample_sameByKind⟩

/-- Contracts that are not the same can have the same text. -/
theorem farPointSample_dump_eq_halved :
    ∃ layout, Layout.ofValue (indentValue none) = .ok layout ∧
      farPointSample.halved.dump layout = farPointSample.dump layout ∧
      ¬ farPointSample.halved.SameByKind farPointSample := by
  refine ⟨.compact, rfl, farPointSample.dump_halved .compact, fun same => ?_⟩
  have description_eq := congrArg (List.map (·.description)) (same.rules .permission)
  revert description_eq
  decide

end Policy

end UsageContracts
