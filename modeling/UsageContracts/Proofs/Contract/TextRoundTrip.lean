import Mathlib.Algebra.Group.Int.Defs
import UsageContracts.Contract.Document
import UsageContracts.Contract.Text
import UsageContracts.Proofs.Contract.Agreement
import UsageContracts.Proofs.Contract.JsonText
import UsageContracts.Proofs.Contract.RoundTrip
import UsageContracts.Proofs.Json.Textual

/-!
# Reading a contract's own text

The text of a contract's document is JSON, and it is read as YAML.  Whatever the
texts in the contract are, and in whatever layout the document is written, the
same contract is read from the text as from the document.
-/

namespace UsageContracts

open Json

/-! ## Basic contracts -/

/-- A constraint is basic if its texts are. -/
structure Constraint.IsBasic (constraint : Constraint) : Prop where
  value : constraint.value.text.IsBasic
  informationPoint : ∀ endpoint ∈ constraint.informationPoint, endpoint.IsBasic

/-- A duty is basic if its constraints are. -/
structure Duty.IsBasic (duty : Duty) : Prop where
  constraints : ∀ constraint ∈ duty.constraints, constraint.IsBasic

/-- A rule is basic if its parts are. -/
structure Rule.IsBasic (rule : Rule) : Prop where
  constraints : ∀ constraint ∈ rule.constraints, constraint.IsBasic
  duties : ∀ duty ∈ rule.duties, duty.IsBasic
  title : rule.title.IsBasic
  description : rule.description.IsBasic

/-- A contract is basic if the number of every code point in its texts has at
most four hexadecimal digits. -/
structure Policy.IsBasic (policy : Policy) : Prop where
  rules : ∀ rule ∈ policy.rules, rule.IsBasic
  documentType : policy.documentType.IsBasic

/-! ## Textual documents -/

theorem reference_isTextual {identifier : Text} (basic : identifier.IsBasic) :
    (reference identifier).IsTextual :=
  ⟨by simp, membersAreTextual_cons (by decide) basic trivial⟩

theorem literal_isTextual {text : Text} (basic : text.IsBasic) (datatype : Datatype) :
    (literal text datatype).IsTextual := by
  have datatypeBasic : datatype.identifier.IsBasic := by
    cases datatype <;> decide
  refine ⟨?_, membersAreTextual_cons (by decide) basic
    (membersAreTextual_cons (by decide) datatypeBasic trivial)⟩
  have names : (["@value", "@type"] : List Text).Nodup := by
    decide
  exact names

theorem Constraint.toDocument_isTextual {constraint : Constraint} (basic : constraint.IsBasic) :
    constraint.toDocument.IsTextual := by
  have operandBasic : (Vocabulary.identifier constraint.operand).IsBasic := by
    cases constraint.operand <;> decide
  have operatorBasic : (Vocabulary.identifier constraint.operator).IsBasic := by
    cases constraint.operator <;> decide
  have typeBasic : ("ids:Constraint" : Text).IsBasic := by
    decide
  have names : (["@type", "ids:leftOperand", "ids:operator", "ids:rightOperand",
      "ids:pipEndpoint"] : List Text).Nodup := by
    decide
  have common : MembersAreTextual
      [ member "@type" (.text "ids:Constraint"),
        member "ids:leftOperand" (reference (Vocabulary.identifier constraint.operand)),
        member "ids:operator" (reference (Vocabulary.identifier constraint.operator)),
        member "ids:rightOperand" (literal constraint.value.text constraint.value.datatype) ] :=
    membersAreTextual_cons (by decide) typeBasic <|
      membersAreTextual_cons (by decide) (reference_isTextual operandBasic) <|
      membersAreTextual_cons (by decide) (reference_isTextual operatorBasic) <|
      membersAreTextual_cons (by decide) (literal_isTextual basic.value _) trivial
  unfold toDocument
  cases endpoint_eq : constraint.informationPoint with
  | none =>
      exact ⟨names.sublist (List.sublist_append_left _ _), membersAreTextual_append common trivial⟩
  | some endpoint =>
      have endpointTextual := reference_isTextual (basic.informationPoint endpoint endpoint_eq)
      exact ⟨names, membersAreTextual_append common
        (membersAreTextual_cons (by decide) endpointTextual trivial)⟩

theorem actions_isTextual (action : Action) :
    (Json.list [reference (Vocabulary.identifier action)]).IsTextual := by
  have basic : (Vocabulary.identifier action).IsBasic := by
    cases action <;> decide
  exact ⟨reference_isTextual basic, trivial⟩

theorem constraints_isTextual {constraints : List Constraint}
    (basic : ∀ constraint ∈ constraints, constraint.IsBasic) :
    (Json.list (constraints.map Constraint.toDocument)).IsTextual :=
  areTextual_map fun constraint member => Constraint.toDocument_isTextual (basic constraint member)

theorem Duty.toDocument_isTextual {duty : Duty} (basic : duty.IsBasic) :
    duty.toDocument.IsTextual := by
  have typeBasic : ("ids:Duty" : Text).IsBasic := by
    decide
  have names : (["@type", "ids:action", "ids:constraint"] : List Text).Nodup := by
    decide
  exact ⟨names, membersAreTextual_cons (by decide) typeBasic <|
    membersAreTextual_cons (by decide) (actions_isTextual duty.action) <|
    membersAreTextual_cons (by decide) (constraints_isTextual basic.constraints) trivial⟩

theorem Rule.toDocument_isTextual {rule : Rule} (basic : rule.IsBasic) :
    rule.toDocument.IsTextual := by
  have typeBasic : rule.kind.documentType.IsBasic := by
    cases rule.kind <;> decide
  have dutiesTextual : (Json.list (rule.duties.map Duty.toDocument)).IsTextual :=
    areTextual_map fun duty member => Duty.toDocument_isTextual (basic.duties duty member)
  have names : (["@type", "ids:title", "ids:description", "ids:action", "ids:constraint",
      "ids:postDuty"] : List Text).Nodup := by
    decide
  refine ⟨names.sublist ?_, ?_⟩
  · simp only [List.map_append]
    exact (((((List.Sublist.refl _).append (names_memberIf_sublist _ _ _)).append
      (names_memberIf_sublist _ _ _)).append (List.Sublist.refl _)).append
      (names_memberIf_sublist _ _ _)).append (names_memberIf_sublist _ _ _)
  · refine membersAreTextual_append (membersAreTextual_append (membersAreTextual_append
      (membersAreTextual_append (membersAreTextual_append ?_ ?_) ?_) ?_) ?_) ?_
    · exact membersAreTextual_cons (by decide) typeBasic trivial
    · exact membersAreTextual_memberIf (by decide) ⟨literal_isTextual basic.title _, trivial⟩
    · exact membersAreTextual_memberIf (by decide) ⟨literal_isTextual basic.description _, trivial⟩
    · exact membersAreTextual_cons (by decide) (actions_isTextual rule.action) trivial
    · exact membersAreTextual_memberIf (by decide) (constraints_isTextual basic.constraints)
    · exact membersAreTextual_memberIf (by decide) dutiesTextual

namespace Policy

variable {policy : Policy}

theorem context_isTextual : context.IsTextual := by
  have names : (["ids", "idsc", "xsd"] : List Text).Nodup := by
    decide
  have core : ("https://w3id.org/idsa/core/" : Text).IsBasic := by
    decide
  have code : ("https://w3id.org/idsa/code/" : Text).IsBasic := by
    decide
  have schema : ("http://www.w3.org/2001/XMLSchema#" : Text).IsBasic := by
    decide
  exact ⟨names, membersAreTextual_cons (by decide) core <|
    membersAreTextual_cons (by decide) code <|
    membersAreTextual_cons (by decide) schema trivial⟩

theorem groupMember_areTextual (basic : policy.IsBasic) (kind : RuleKind) :
    MembersAreTextual (policy.groupMember kind) := by
  have isName : IsName kind.key := by
    cases kind <;> decide
  refine membersAreTextual_memberIf isName (areTextual_map fun rule member => ?_)
  exact Rule.toDocument_isTextual (basic.rules rule (List.mem_filter.mp member).1)

/-- The document of a basic contract is textual. -/
theorem toDocument_isTextual (basic : policy.IsBasic) : policy.toDocument.IsTextual := by
  have names : ∀ kind : RuleKind,
      (["@context", "@type", kind.key, kind.opposite.key] : List Text).Nodup := by
    intro kind
    cases kind <;> decide
  refine ⟨(names policy.leadingKind).sublist ?_, ?_⟩
  · simp only [List.map_append]
    exact ((List.Sublist.refl _).append (names_memberIf_sublist _ _ _)).append
      (names_memberIf_sublist _ _ _)
  · refine membersAreTextual_append (membersAreTextual_append ?_ ?_) ?_
    · exact membersAreTextual_cons (by decide) context_isTextual <|
        membersAreTextual_cons (by decide) basic.documentType trivial
    · exact groupMember_areTextual basic _
    · exact groupMember_areTextual basic _

/-! ## Reading texts -/

/-- The same is read from the text of a document as from the document. -/
theorem ofText_dump {layout : Layout} (spaced : layout.IsSpaced) (basic : policy.IsBasic) :
    ofText (policy.dump layout) =
      (read Value.view policy.toDocument.toValue).mapError .contract := by
  rcases exists_writeAt_eq spaced 0 policy.toDocument (toDocument_isTextual basic) with
    ⟨source, write_eq, json_eq, isPortable⟩
  have isObject : source.IsObject := source.isObject_iff.mpr ⟨_, json_eq⟩
  have text_eq : policy.dump layout = source.text := write_eq
  rw [text_eq, ofText_eq_read isObject isPortable, json_eq]

/-- The indents that have a layout: null, and the integers of at most 64 bits. -/
inductive IsIndent : Value → Prop
  | none : IsIndent .null
  | spaces {number : Int} : -2 ^ 63 ≤ number → number < 2 ^ 63 →
      IsIndent (.scalar (.integer number))

theorem IsIndent.exists_layout {indent : Value} (isIndent : IsIndent indent) :
    ∃ layout, Layout.ofValue indent = .ok layout ∧ layout.IsSpaced := by
  cases isIndent with
  | none => exact ⟨.compact, rfl, trivial⟩
  | @spaces number lower upper =>
      refine ⟨.ofSpaces number, ?_, Layout.ofSpaces_isSpaced number⟩
      rw [Layout.ofValue, if_neg (by omega)]

/-- A basic contract has a text for every indent of at most 64 bits.  From each of
these texts the contract is read that is read from its document, which is its
canonical form.  Wider indents have no text. -/
theorem text_round_trip (policy : Policy) (basic : policy.IsBasic) :
    (∀ indent, IsIndent indent → ∃ layout, Layout.ofValue indent = .ok layout ∧
      ofText (policy.dump layout) =
        (read Value.view policy.toDocument.toValue).mapError .contract ∧
      ofText (policy.dump layout) = .ok policy.canonical) ∧
    ∀ number : Int, ¬ IsIndent (.scalar (.integer number)) →
      Layout.ofValue (.scalar (.integer number)) = .error .tooWide := by
  constructor
  · intro indent isIndent
    rcases isIndent.exists_layout with ⟨layout, layout_eq, spaced⟩
    have text_eq := ofText_dump spaced basic
    refine ⟨layout, layout_eq, text_eq, ?_⟩
    rw [text_eq, policy.read_toDocument]
    rfl
  · intro number wide
    have outside : number < -0x8000000000000000 ∨ 0x8000000000000000 ≤ number := by
      by_contra inside
      exact wide (.spaces (by omega) (by omega))
    rw [Layout.ofValue, if_pos outside]

/-- Two rules with texts that are full of what separates the parts of YAML text. -/
def separatedSample : Policy where
  rules :=
    [ { kind := .prohibition
        title := "\"\\: #\n\u2028- "
        constraints :=
          [{ operand := .other, operator := .other, value := ⟨"\t'\u0085 ", .other⟩ }] },
      { kind := .permission, description := "? |" } ]
  documentType := "\uFEFF&*"

theorem separatedSample_ofText_dump : separatedSample.IsBasic ∧
    ∃ layout, Layout.ofValue (.scalar (.integer (-1))) = .ok layout ∧
      ofText (separatedSample.dump layout) = .ok separatedSample.canonical := by
  have basic : separatedSample.IsBasic := by
    refine ⟨fun rule member => ?_, by decide⟩
    rcases List.mem_pair.mp member with rfl | rfl
    · refine ⟨fun constraint inRule => ?_, by simp, by decide, by decide⟩
      obtain rfl := List.mem_singleton.mp inRule
      exact ⟨by decide, by simp⟩
    · exact ⟨by simp, by simp, by decide, by decide⟩
  have isIndent : IsIndent (.scalar (.integer (-1))) := .spaces (by decide) (by decide)
  rcases (text_round_trip separatedSample basic).1 _ isIndent with ⟨layout, layout_eq, -, text_eq⟩
  exact ⟨basic, layout, layout_eq, text_eq⟩

/-- Not every integer is an indent that a contract has a text for. -/
theorem exists_integer_without_text : ¬ ∀ policy : Policy, policy.IsBasic →
    ∀ number : Int, ∃ layout, Layout.ofValue (.scalar (.integer number)) = .ok layout ∧
      ofText (policy.dump layout) =
        (read Value.view policy.toDocument.toValue).mapError .contract := by
  intro every
  have basic : ({} : Policy).IsBasic := ⟨by simp, by decide⟩
  rcases every {} basic (2 ^ 63) with ⟨layout, layout_eq, -⟩
  have tooWide : Layout.ofValue (.scalar (.integer (2 ^ 63))) = .error .tooWide :=
    rfl
  rw [tooWide] at layout_eq
  cases layout_eq

end Policy

end UsageContracts
