import UsageContracts.Proofs.Contract.TextRoundTrip
import UsageContracts.Proofs.Json.Halves

/-!
# Reading a contract's own text, for all code points

The text of a contract's document holds the halves of code points whose numbers
have more than four hexadecimal digits, and each half is read on its own.  A
contract is therefore read back with its code points halved, and as it was
exactly if it is basic.
-/

namespace UsageContracts

open Json

/-! ## Contracts with halves -/

/-- A constraint with the halves of its code points. -/
def Constraint.halved (constraint : Constraint) : Constraint :=
  { constraint with
    value := { constraint.value with text := constraint.value.text.halved }
    informationPoint := constraint.informationPoint.map Text.halved }

/-- A duty with the halves of its code points. -/
def Duty.halved (duty : Duty) : Duty :=
  { duty with constraints := duty.constraints.map Constraint.halved }

/-- A rule with the halves of its code points. -/
def Rule.halved (rule : Rule) : Rule :=
  { rule with
    constraints := rule.constraints.map Constraint.halved
    duties := rule.duties.map Duty.halved
    title := rule.title.halved
    description := rule.description.halved }

/-- A contract with the halves of its code points. -/
def Policy.halved (policy : Policy) : Policy where
  rules := policy.rules.map Rule.halved
  documentType := policy.documentType.halved

/-! ## Basic contracts -/

theorem Constraint.halved_isBasic (constraint : Constraint) : constraint.halved.IsBasic where
  value := Text.halved_isBasic _
  informationPoint := by
    intro endpoint member
    rcases Option.map_eq_some_iff.mp member with ⟨original, -, rfl⟩
    exact Text.halved_isBasic original

theorem Duty.halved_isBasic (duty : Duty) : duty.halved.IsBasic where
  constraints := List.forall_mem_map.mpr fun constraint _ => constraint.halved_isBasic

theorem Rule.halved_isBasic (rule : Rule) : rule.halved.IsBasic where
  constraints := List.forall_mem_map.mpr fun constraint _ => constraint.halved_isBasic
  duties := List.forall_mem_map.mpr fun duty _ => duty.halved_isBasic
  title := Text.halved_isBasic _
  description := Text.halved_isBasic _

theorem Policy.halved_isBasic (policy : Policy) : policy.halved.IsBasic where
  rules := List.forall_mem_map.mpr fun rule _ => rule.halved_isBasic
  documentType := Text.halved_isBasic _

theorem map_eq_self_of_forall {α : Type} {change : α → α} {items : List α}
    (same : ∀ item ∈ items, change item = item) : items.map change = items :=
  (List.map_congr_left same).trans (List.map_id' items)

theorem Constraint.halved_eq_self {constraint : Constraint} (basic : constraint.IsBasic) :
    constraint.halved = constraint := by
  have endpoint_eq : constraint.informationPoint.map Text.halved = constraint.informationPoint := by
    cases endpoint : constraint.informationPoint with
    | none => rfl
    | some text =>
        have textBasic := basic.informationPoint text endpoint
        rw [Option.map_some, Text.halved_eq_self_iff.mpr textBasic]
  rw [halved, endpoint_eq, Text.halved_eq_self_iff.mpr basic.value]

theorem Duty.halved_eq_self {duty : Duty} (basic : duty.IsBasic) : duty.halved = duty := by
  rw [halved, map_eq_self_of_forall fun constraint member =>
    Constraint.halved_eq_self (basic.constraints constraint member)]

theorem Rule.halved_eq_self {rule : Rule} (basic : rule.IsBasic) : rule.halved = rule := by
  have constraints_eq := map_eq_self_of_forall fun constraint member =>
    Constraint.halved_eq_self (basic.constraints constraint member)
  have duties_eq := map_eq_self_of_forall fun duty member =>
    Duty.halved_eq_self (basic.duties duty member)
  rw [halved, constraints_eq, duties_eq, Text.halved_eq_self_iff.mpr basic.title,
    Text.halved_eq_self_iff.mpr basic.description]

/-- A contract stays as it is when it is halved exactly if it is basic. -/
theorem Policy.halved_eq_self_iff {policy : Policy} :
    policy.halved = policy ↔ policy.IsBasic := by
  constructor
  · intro halved_eq
    exact halved_eq ▸ policy.halved_isBasic
  · intro basic
    have rules_eq := map_eq_self_of_forall fun rule member =>
      Rule.halved_eq_self (basic.rules rule member)
    rw [halved, rules_eq, Text.halved_eq_self_iff.mpr basic.documentType]

/-! ## Documents -/

theorem literal_writtenAlike (text : Text) (datatype : Datatype) :
    WrittenAlike (literal text.halved datatype) (literal text datatype) :=
  .object (membersWrittenAlike_cons (.text_halved text) (membersWrittenAlike_refl _))

theorem Constraint.toDocument_writtenAlike (constraint : Constraint) :
    WrittenAlike constraint.halved.toDocument constraint.toDocument := by
  refine .object (List.rel_append ?_ ?_)
  · exact membersWrittenAlike_cons (.refl _) <| membersWrittenAlike_cons (.refl _) <|
      membersWrittenAlike_cons (.refl _) <|
      membersWrittenAlike_cons (literal_writtenAlike _ _) .nil
  · cases endpoint : constraint.informationPoint with
    | none =>
        simp only [halved, endpoint, Option.map_none]
        exact .nil
    | some text =>
        simp only [halved, endpoint, Option.map_some]
        exact membersWrittenAlike_cons
          (.object (membersWrittenAlike_cons (.text_halved text) .nil)) .nil

theorem constraints_writtenAlike (constraints : List Constraint) :
    WrittenAlike (.list ((constraints.map Constraint.halved).map Constraint.toDocument))
      (.list (constraints.map Constraint.toDocument)) := by
  rw [List.map_map]
  exact .list_map fun constraint _ => constraint.toDocument_writtenAlike

theorem Duty.toDocument_writtenAlike (duty : Duty) :
    WrittenAlike duty.halved.toDocument duty.toDocument :=
  .object <| membersWrittenAlike_cons (.refl _) <| membersWrittenAlike_cons (.refl _) <|
    membersWrittenAlike_cons (constraints_writtenAlike duty.constraints) .nil

theorem Rule.toDocument_writtenAlike (rule : Rule) :
    WrittenAlike rule.halved.toDocument rule.toDocument := by
  have duties : WrittenAlike
      (.list ((rule.duties.map Duty.halved).map Duty.toDocument))
      (.list (rule.duties.map Duty.toDocument)) := by
    rw [List.map_map]
    exact .list_map fun duty _ => duty.toDocument_writtenAlike
  have literals (text : Text) : WrittenAlike (.list [literal text.halved .string])
      (.list [literal text .string]) :=
    .list (.cons (literal_writtenAlike text .string) .nil)
  simp only [toDocument, halved, Text.isEmpty_halved, List.isEmpty_map]
  refine .object ?_
  exact List.rel_append (List.rel_append (List.rel_append (List.rel_append (List.rel_append
    (membersWrittenAlike_refl _) (membersWrittenAlike_memberIf (literals _)))
    (membersWrittenAlike_memberIf (literals _))) (membersWrittenAlike_refl _))
    (membersWrittenAlike_memberIf (constraints_writtenAlike _)))
    (membersWrittenAlike_memberIf duties)

namespace Policy

variable (policy : Policy)

theorem rulesOf_halved (kind : RuleKind) :
    policy.halved.rulesOf kind = (policy.rulesOf kind).map Rule.halved := by
  rw [rulesOf, halved, List.filter_map]
  rfl

theorem leadingKind_halved : policy.halved.leadingKind = policy.leadingKind := by
  rcases policy with ⟨rules, documentType⟩
  cases rules <;> rfl

theorem groupMember_writtenAlike (kind : RuleKind) :
    MembersWrittenAlike (policy.halved.groupMember kind) (policy.groupMember kind) := by
  simp only [groupMember, rulesOf_halved, List.isEmpty_map, List.map_map]
  exact membersWrittenAlike_memberIf (.list_map fun rule _ => rule.toDocument_writtenAlike)

/-- The text of a contract is that of the contract with halves. -/
theorem dump_halved (layout : Layout) : policy.halved.dump layout = policy.dump layout := by
  have alike : WrittenAlike policy.halved.toDocument policy.toDocument := by
    rw [toDocument, toDocument, leadingKind_halved]
    refine .object (List.rel_append (List.rel_append ?_ ?_) ?_)
    · exact membersWrittenAlike_cons (.refl _) (membersWrittenAlike_cons (.text_halved _) .nil)
    · exact policy.groupMember_writtenAlike _
    · exact policy.groupMember_writtenAlike _
  exact alike layout 0

/-! ## Reading texts -/

theorem groupByKind_map_halved (rules : List Rule) :
    groupByKind (rules.map Rule.halved) = (groupByKind rules).map Rule.halved := by
  cases rules with
  | nil => rfl
  | cons first rest =>
      have filter_eq (kind : RuleKind) :
          ((first :: rest).map Rule.halved).filter (·.kind = kind) =
            ((first :: rest).filter (·.kind = kind)).map Rule.halved :=
        List.filter_map
      rw [groupByKind, List.map_append, ← filter_eq, ← filter_eq]
      rfl

theorem canonical_halved : policy.halved.canonical = policy.canonical.halved := by
  have default_eq : defaultDocumentType.halved = defaultDocumentType :=
    Text.halved_eq_self_iff.mpr (by decide)
  simp only [canonical, halved, groupByKind_map_halved, List.isEmpty_iff,
    Text.halved_eq_nil_iff]
  split
  · rw [default_eq]
  · rfl

/-- From the text of a contract its canonical form is read, with the halves of its
code points. -/
theorem ofText_dump_eq_halved {layout : Layout} (spaced : layout.IsSpaced) :
    ofText (policy.dump layout) = .ok policy.canonical.halved := by
  rw [← dump_halved, ofText_dump spaced policy.halved_isBasic, read_toDocument, canonical_halved]
  rfl

/-- The value of an indent, which is null or an integer. -/
def indentValue : Option Int → Value
  | none => .null
  | some number => .scalar (.integer number)

/-- Integers of more than 64 bits have no layout. -/
theorem isIndent_of_ofValue_eq_ok {indent : Option Int} {layout : Layout}
    (layout_eq : Layout.ofValue (indentValue indent) = .ok layout) :
    IsIndent (indentValue indent) ∧ layout.IsSpaced := by
  cases indent with
  | none =>
      obtain rfl : Layout.compact = layout := Except.ok.inj layout_eq
      exact ⟨.none, trivial⟩
  | some number =>
      rw [indentValue, Layout.ofValue] at layout_eq
      split at layout_eq
      · cases layout_eq
      · next inside =>
          obtain rfl : Layout.ofSpaces number = layout := Except.ok.inj layout_eq
          exact ⟨.spaces (by omega) (by omega), Layout.ofSpaces_isSpaced number⟩

variable {policy}

/-- Of a contract with a document type whose rules of each kind are contiguous, the
text in any layout is read as the contract with the halves of its code points.  It
is hence read back as it was exactly if it is basic, with indents of at most 64
bits, which are those that have a layout. -/
theorem read_back_iff_isBasic (contiguous : HasContiguousKinds policy.rules)
    (typed : policy.documentType ≠ []) (indent : Option Int) :
    (∀ layout, Layout.ofValue (indentValue indent) = .ok layout →
      ofText (policy.dump layout) = .ok policy.halved) ∧
    ((∃ layout, Layout.ofValue (indentValue indent) = .ok layout ∧
      ofText (policy.dump layout) = .ok policy) ↔
        IsIndent (indentValue indent) ∧ policy.IsBasic) := by
  have canonical_eq : policy.canonical = policy :=
    policy.canonical_eq_self_iff.mpr ⟨contiguous, typed⟩
  have halved_eq (layout : Layout) (layout_eq : Layout.ofValue (indentValue indent) = .ok layout) :
      ofText (policy.dump layout) = .ok policy.halved := by
    rw [policy.ofText_dump_eq_halved (isIndent_of_ofValue_eq_ok layout_eq).2, canonical_eq]
  refine ⟨halved_eq, ?_, ?_⟩
  · rintro ⟨layout, layout_eq, same⟩
    rw [halved_eq layout layout_eq] at same
    exact ⟨(isIndent_of_ofValue_eq_ok layout_eq).1, halved_eq_self_iff.mp (Except.ok.inj same)⟩
  · rintro ⟨isIndent, basic⟩
    rcases isIndent.exists_layout with ⟨layout, layout_eq, -⟩
    refine ⟨layout, layout_eq, ?_⟩
    rw [halved_eq layout layout_eq, halved_eq_self_iff.mpr basic]

/-- A permission whose description ends in a code point with five hexadecimal
digits. -/
def farPointSample : Policy where
  rules := [{ kind := .permission, description := "ok\u007f 😀" }]

theorem farPointSample_hasContiguousKinds : HasContiguousKinds farPointSample.rules :=
  (groupByKind_eq_self_iff _).mp rfl

theorem farPointSample_ofText_dump :
    HasContiguousKinds farPointSample.rules ∧ farPointSample.documentType ≠ [] ∧
      ofText (farPointSample.dump .compact) = .ok farPointSample.halved := by
  have typed : farPointSample.documentType ≠ [] := by
    decide
  refine ⟨farPointSample_hasContiguousKinds, typed, ?_⟩
  exact (read_back_iff_isBasic farPointSample_hasContiguousKinds typed none).1 .compact rfl

/-- Not every contract is read back from its text. -/
theorem farPointSample_not_read_back :
    HasContiguousKinds farPointSample.rules ∧ farPointSample.documentType ≠ [] ∧
      ∃ policy, ofText (farPointSample.dump (.ofSpaces 2)) = .ok policy ∧
        policy ≠ farPointSample := by
  have typed : farPointSample.documentType ≠ [] := by
    decide
  refine ⟨farPointSample_hasContiguousKinds, typed, _,
    farPointSample.ofText_dump_eq_halved (Layout.ofSpaces_isSpaced 2), ?_⟩
  rw [farPointSample.canonical_eq_self_iff.mpr ⟨farPointSample_hasContiguousKinds, typed⟩]
  intro halved_eq
  have basic := halved_eq_self_iff.mp halved_eq
  have descriptionBasic := (basic.rules _ (List.mem_singleton.mpr rfl)).description
  revert descriptionBasic
  decide

end Policy

end UsageContracts
