import UsageContracts.Proofs.Contract.Identifier

/-!
# Terms and their identifiers

An operand, an operator or an action is named by its local name in any letter case, and a
datatype by its exact local name, each in every namespace.  All other identifiers name the
term that stands for the rest.
-/

namespace UsageContracts

/-- An item that no other one shares its key with is what is found by its key, and by no
other key, unless it is what stands for items that are not found. -/
theorem getD_find?_eq_iff {α κ : Type} [BEq κ] [LawfulBEq κ] {items : List α} {key : α → κ}
    {fallback item : α} {wanted : κ} (listed : item ∈ items)
    (inj : ∀ other ∈ items, key other = key item → other = item) (named : item ≠ fallback) :
    (items.find? fun other => key other == wanted).getD fallback = item ↔ wanted = key item := by
  cases found : items.find? fun other => key other == wanted with
  | none =>
      have missing := List.find?_eq_none.mp found item listed
      rw [beq_iff_eq] at missing
      exact iff_of_false named.symm (Ne.symm missing)
  | some other =>
      have isMatch := List.find?_some found
      have key_eq : key other = wanted := eq_of_beq isMatch
      have member := List.mem_of_find?_eq_some found
      rw [Option.getD_some, ← key_eq]
      exact ⟨congrArg key, inj other member⟩

/-! ## Vocabularies -/

namespace Vocabulary

variable {α : Type} [Vocabulary α]

/-- Whether a vocabulary lists all its terms and gives them different names in capitals. -/
structure IsNamed (α : Type) [Vocabulary α] : Prop where
  mem_terms : ∀ term : α, term ∈ terms
  name_inj : ∀ first second : α, name first = name second → first = second
  name_ne_nil : ∀ term : α, name term ≠ []
  letters : ∀ term : α, ∀ letter ∈ name term, letter.IsNameLetter

theorem operand_isNamed : IsNamed Operand where
  mem_terms term := by cases term <;> decide
  name_inj first second := by cases first <;> cases second <;> decide
  name_ne_nil term := by cases term <;> decide
  letters term := by cases term <;> decide

theorem operator_isNamed : IsNamed Operator where
  mem_terms term := by cases term <;> decide
  name_inj first second := by cases first <;> cases second <;> decide
  name_ne_nil term := by cases term <;> decide
  letters term := by cases term <;> decide

theorem action_isNamed : IsNamed Action where
  mem_terms term := by cases term <;> decide
  name_inj first second := by cases first <;> cases second <;> decide
  name_ne_nil term := by cases term <;> decide
  letters term := by cases term <;> decide

/-- Whether the terms of a vocabulary are what identifiers with their local names stand for:
in every namespace, in every letter case, and nothing but the term for the rest otherwise. -/
structure IsResolved (α : Type) [Vocabulary α] : Prop where
  qualified : ∀ (space : Text) (separator : CodePoint) (identifier : Text),
    separator.isNamespaceEnd = true → identifier ≠ [] →
      (ofIdentifier (space ++ separator :: identifier) : α) = ofIdentifier identifier
  eq_of_isCaseOf : ∀ (term : α) (space : Text) (separator : CodePoint) (variant : Text),
    separator.isNamespaceEnd = true → variant.IsCaseOf (name term) →
      ofIdentifier (space ++ separator :: variant) = term
  eq_iff : ∀ term : α, term ≠ other → ∀ identifier : Text,
    ofIdentifier identifier = term ↔ (localName identifier).upper = name term

theorem ofIdentifier_qualified {separator : CodePoint} (ends : separator.isNamespaceEnd = true)
    (space : Text) {identifier : Text} (given : identifier ≠ []) :
    (ofIdentifier (space ++ separator :: identifier) : α) = ofIdentifier identifier := by
  simp only [ofIdentifier, localName_qualified ends, List.isEmpty_iff, List.append_eq_nil_iff,
    reduceCtorEq, and_false, given]

namespace IsNamed

variable (named : IsNamed α) {term : α} {identifier : Text}

include named

theorem ofIdentifier_eq_iff (notRest : term ≠ other) :
    ofIdentifier identifier = term ↔ (localName identifier).upper = name term := by
  unfold ofIdentifier
  split
  · next isEmpty =>
      obtain rfl := List.isEmpty_iff.mp isEmpty
      exact iff_of_false notRest.symm (named.name_ne_nil term).symm
  · exact getD_find?_eq_iff (named.mem_terms term)
      (fun second _ => named.name_inj second term) notRest

/-- The name of the term for the rest stands for it too, as no other term has it. -/
theorem ofIdentifier_eq_of_upper_eq (upper_eq : (localName identifier).upper = name term) :
    ofIdentifier identifier = term := by
  by_cases isRest : ofIdentifier identifier = (other : α)
  · by_contra different
    have notRest : term ≠ other := fun same => different (isRest.trans same.symm)
    exact different ((named.ofIdentifier_eq_iff notRest).mpr upper_eq)
  · have name_eq := (named.ofIdentifier_eq_iff isRest).mp rfl
    exact named.name_inj _ _ (name_eq.symm.trans upper_eq)

theorem ofIdentifier_of_isCaseOf {separator : CodePoint} (ends : separator.isNamespaceEnd = true)
    (space : Text) {variant : Text} (isCase : variant.IsCaseOf (name term)) :
    ofIdentifier (space ++ separator :: variant) = term := by
  have plain : ∀ point ∈ variant, point.isNamespaceEnd = false := fun point member =>
    (isCase.forall_mem (named.letters term) point member).isNamespaceEnd_eq_false
  apply named.ofIdentifier_eq_of_upper_eq
  rw [localName_qualified ends, localName_eq_self plain, isCase.upper_eq (named.letters term)]

theorem isResolved : IsResolved α where
  qualified space _ _ ends given := ofIdentifier_qualified ends space given
  eq_of_isCaseOf _ space _ _ ends isCase := named.ofIdentifier_of_isCaseOf ends space isCase
  eq_iff _ notRest _ := named.ofIdentifier_eq_iff notRest

end IsNamed

end Vocabulary

/-! ## Datatypes -/

namespace Datatype

theorem ofIdentifier_qualified {separator : CodePoint} (ends : separator.isNamespaceEnd = true)
    (space : Text) {identifier : Text} (given : identifier ≠ []) :
    ofIdentifier (space ++ separator :: identifier) = ofIdentifier identifier := by
  simp only [ofIdentifier, localName_qualified ends, List.isEmpty_iff, List.append_eq_nil_iff,
    reduceCtorEq, and_false, given]

theorem mem_all (datatype : Datatype) : datatype ∈ all := by
  cases datatype <;> decide

theorem localName_identifier_inj {first second : Datatype}
    (same : localName first.identifier = localName second.identifier) : first = second := by
  revert same
  cases first <;> cases second <;> decide

variable {datatype : Datatype} {identifier : Text}

theorem ofIdentifier_eq_iff (notRest : datatype ≠ .other) (given : identifier ≠ []) :
    ofIdentifier identifier = datatype ↔
      localName identifier = localName datatype.identifier := by
  rw [ofIdentifier, if_neg (by simpa using given)]
  exact getD_find?_eq_iff datatype.mem_all (fun _ _ => localName_identifier_inj) notRest

/-- A datatype is what its local name stands for, the datatype for the rest included. -/
theorem ofIdentifier_eq_of_localName_eq (given : identifier ≠ [])
    (same : localName identifier = localName datatype.identifier) :
    ofIdentifier identifier = datatype := by
  by_contra different
  by_cases isRest : ofIdentifier identifier = .other
  · have notRest : datatype ≠ .other := fun rest => different (isRest.trans rest.symm)
    exact different ((ofIdentifier_eq_iff notRest given).mpr same)
  · have found := (ofIdentifier_eq_iff isRest given).mp rfl
    exact different (localName_identifier_inj (found.symm.trans same))

theorem ofIdentifier_eq_other (given : identifier ≠ [])
    (unnamed : ∀ datatype : Datatype, localName identifier ≠ localName datatype.identifier) :
    ofIdentifier identifier = .other := by
  by_contra named
  exact unnamed _ ((ofIdentifier_eq_iff named given).mp rfl)

end Datatype

/-! ## Resolution -/

/-- A local name is the longest end of an identifier without the code points that end
namespaces.  Operands, operators and actions are resolved by it in any letter case.  A
datatype is resolved by it as it is, and every other identifier with a code point names the
datatype for the rest. -/
theorem resolved_by_localName :
    (∀ identifier : Text, Text.IsLongestEnd ['#', '/', ':'] identifier (localName identifier)) ∧
    Vocabulary.IsResolved Operand ∧ Vocabulary.IsResolved Operator ∧
    Vocabulary.IsResolved Action ∧
    (∀ (space : Text) (separator : CodePoint) (identifier : Text),
      separator.isNamespaceEnd = true → identifier ≠ [] →
        Datatype.ofIdentifier (space ++ separator :: identifier) =
          Datatype.ofIdentifier identifier) ∧
    ∀ identifier : Text, identifier ≠ [] →
      (∀ datatype : Datatype, localName identifier = localName datatype.identifier →
        Datatype.ofIdentifier identifier = datatype) ∧
      (∀ datatype : Datatype, datatype ≠ .other → Datatype.ofIdentifier identifier = datatype →
        localName identifier = localName datatype.identifier) ∧
      ((∀ datatype : Datatype, localName identifier ≠ localName datatype.identifier) →
        Datatype.ofIdentifier identifier = .other) := by
  refine ⟨localName_isLongestEnd, Vocabulary.operand_isNamed.isResolved,
    Vocabulary.operator_isNamed.isResolved, Vocabulary.action_isNamed.isResolved,
    fun space _ _ ends given => Datatype.ofIdentifier_qualified ends space given,
    fun identifier given => ⟨?_, ?_, ?_⟩⟩
  · intro datatype same
    exact Datatype.ofIdentifier_eq_of_localName_eq given same
  · intro datatype notRest resolved
    exact (Datatype.ofIdentifier_eq_iff notRest given).mp resolved
  · intro unnamed
    exact Datatype.ofIdentifier_eq_other given unnamed

/-- An operand whose name is in another letter case, and a name that is no datatype in
another letter case. -/
theorem resolved_by_localName_of_samples :
    Text.IsLongestEnd ['#', '/', ':'] "https://w3id.org/idsa/code/Elapsed_time" "Elapsed_time" ∧
      (Vocabulary.ofIdentifier "https://w3id.org/idsa/code/Elapsed_time" : Operand) =
        .elapsedTime ∧
      Datatype.ofIdentifier "http://www.w3.org/2001/XMLSchema#Integer" = .other := by
  obtain ⟨longest, operands, -, -, -, datatypes⟩ := resolved_by_localName
  have isCase : Text.IsCaseOf "Elapsed_time" (Vocabulary.name Operand.elapsedTime) := by
    decide
  have isOther : ∀ datatype : Datatype,
      localName "http://www.w3.org/2001/XMLSchema#Integer" ≠ localName datatype.identifier := by
    intro datatype
    cases datatype <;> decide
  refine ⟨longest "https://w3id.org/idsa/code/Elapsed_time", ?_, ?_⟩
  · exact operands.eq_of_isCaseOf .elapsedTime "https://w3id.org/idsa/code" '/' _ rfl isCase
  · exact (datatypes _ (by decide)).2.2 isOther

end UsageContracts
