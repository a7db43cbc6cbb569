import Mathlib.Control.Monad.Basic

/-!
# Outcomes of readers

How the steps of a reader that can fail compose.  A step that succeeds hands
its value on; the first step that fails decides the outcome.
-/

namespace UsageContracts.Outcome

variable {ε δ α β : Type}

@[simp]
theorem pure_eq_ok (value : α) : (pure value : Except ε α) = .ok value :=
  rfl

@[simp]
theorem ok_bind (value : α) (next : α → Except ε β) :
    (Except.ok value >>= next) = next value :=
  rfl

@[simp]
theorem error_bind (fault : ε) (next : α → Except ε β) :
    (Except.error fault >>= next) = .error fault :=
  rfl

@[simp]
theorem exceptMap_ok (f : α → β) (value : α) :
    (Except.ok value : Except ε α).map f = .ok (f value) :=
  rfl

@[simp]
theorem exceptMap_error (f : α → β) (fault : ε) :
    (Except.error fault : Except ε α).map f = .error fault :=
  rfl

@[simp]
theorem mapError_ok (f : ε → δ) (value : α) :
    (Except.ok value : Except ε α).mapError f = .ok value :=
  rfl

@[simp]
theorem mapError_error (f : ε → δ) (fault : ε) :
    (Except.error fault : Except ε α).mapError f = .error (f fault) :=
  rfl

/-- A composed reader succeeds exactly when both steps do. -/
theorem bind_eq_ok_iff {first : Except ε α} {next : α → Except ε β} {result : β} :
    (first >>= next) = .ok result ↔
      ∃ value, first = .ok value ∧ next value = .ok result := by
  cases first <;> simp

theorem exceptMap_eq_ok_iff {f : α → β} {outcome : Except ε α} {result : β} :
    outcome.map f = .ok result ↔ ∃ value, outcome = .ok value ∧ f value = result := by
  cases outcome <;> simp

theorem mapError_eq_ok_iff {f : ε → δ} {outcome : Except ε α} {value : α} :
    outcome.mapError f = .ok value ↔ outcome = .ok value := by
  cases outcome <;> simp

theorem mapError_eq_error_iff {f : ε → δ} {outcome : Except ε α} {fault : δ} :
    outcome.mapError f = .error fault ↔ ∃ cause, outcome = .error cause ∧ f cause = fault := by
  cases outcome <;> simp

/-- Every result of reading the items of a list is that of one of them. -/
theorem exists_of_mem_mapM {read : α → Except ε β} {items : List α} {results : List β}
    {result : β} (results_eq : items.mapM read = .ok results) (member : result ∈ results) :
    ∃ item, read item = .ok result := by
  induction items generalizing results with
  | nil =>
      cases results_eq
      cases member
  | cons item items ih =>
      simp only [List.mapM_cons, bind_eq_ok_iff] at results_eq
      obtain ⟨first, first_eq, others, others_eq, results_eq⟩ := results_eq
      cases results_eq
      rcases List.mem_cons.mp member with rfl | member
      · exact ⟨item, first_eq⟩
      · exact ih others_eq member

/-! ## Specified outcomes -/

/-- An outcome is specified by a condition for success and by the faults that
are reported otherwise. -/
structure IsSpecified (outcome : Except ε α) (accepted : Prop) (faulty : ε → Prop) : Prop where
  accepted_iff : (∃ value, outcome = .ok value) ↔ accepted
  faulty_iff : ∀ fault, outcome = .error fault ↔ faulty fault

theorem isSpecified_iff {outcome : Except ε α} {accepted : Prop} {faulty : ε → Prop} :
    IsSpecified outcome accepted faulty ↔
      ((∃ value, outcome = .ok value) ↔ accepted) ∧
        ∀ fault, outcome = .error fault ↔ faulty fault :=
  ⟨fun specified => ⟨specified.accepted_iff, specified.faulty_iff⟩,
    fun ⟨accepted_iff, faulty_iff⟩ => ⟨accepted_iff, faulty_iff⟩⟩

namespace IsSpecified

theorem ok (value : α) : IsSpecified (ε := ε) (.ok value) True fun _ => False :=
  ⟨by simp, by simp⟩

theorem error (fault : ε) : IsSpecified (α := α) (.error fault) False fun other => other = fault :=
  ⟨by simp, by simp [eq_comm]⟩

/-- There is a fault exactly if there is no success. -/
theorem exists_faulty_iff {outcome : Except ε α} {accepted : Prop} {faulty : ε → Prop}
    (specified : IsSpecified outcome accepted faulty) : (∃ fault, faulty fault) ↔ ¬ accepted := by
  rw [← specified.accepted_iff]
  simp only [← specified.faulty_iff]
  cases outcome <;> simp

/-- A specification may be put in other words. -/
theorem congr {outcome : Except ε α} {accepted accepted' : Prop} {faulty faulty' : ε → Prop}
    (specified : IsSpecified outcome accepted faulty) (accepted_iff : accepted ↔ accepted')
    (faulty_iff : ∀ fault, faulty fault ↔ faulty' fault) :
    IsSpecified outcome accepted' faulty' :=
  ⟨specified.accepted_iff.trans accepted_iff,
    fun fault => (specified.faulty_iff fault).trans (faulty_iff fault)⟩

/-- Of two steps, the fault of the second is reported only if the first one
succeeds. -/
theorem bind {first : Except ε α} {next : α → Except ε β} {accepted accepted' : Prop}
    {faulty faulty' : ε → Prop} (firstSpecified : IsSpecified first accepted faulty)
    (nextSpecified : ∀ value, first = .ok value →
      IsSpecified (next value) accepted' faulty') :
    IsSpecified (first >>= next) (accepted ∧ accepted')
      fun fault => faulty fault ∨ (accepted ∧ faulty' fault) := by
  cases first with
  | error cause =>
      have rejected : ¬ accepted := fun holds => by
        simpa using firstSpecified.accepted_iff.mpr holds
      refine ⟨by simp [rejected], fun fault => ?_⟩
      rw [error_bind, ← firstSpecified.faulty_iff fault]
      simp [rejected]
  | ok value =>
      have holds : accepted := firstSpecified.accepted_iff.mp ⟨value, rfl⟩
      have specified := nextSpecified value rfl
      refine ⟨by simpa [holds] using specified.accepted_iff, fun fault => ?_⟩
      have no_fault : ¬ faulty fault := fun reported => by
        simpa using (firstSpecified.faulty_iff fault).mpr reported
      simpa [holds, no_fault] using specified.faulty_iff fault

/-- A second step that always succeeds does not matter. -/
theorem bind_ok {first : Except ε α} {next : α → Except ε β} {accepted : Prop}
    {faulty : ε → Prop} (firstSpecified : IsSpecified first accepted faulty)
    (succeeds : ∀ value, ∃ result, next value = .ok result) :
    IsSpecified (first >>= next) accepted faulty := by
  cases first with
  | error cause => simpa [isSpecified_iff] using firstSpecified
  | ok value =>
      rcases succeeds value with ⟨result, next_eq⟩
      simpa [isSpecified_iff, next_eq] using firstSpecified

theorem mapError {outcome : Except ε α} {accepted : Prop} {faulty : ε → Prop} (f : ε → δ)
    (specified : IsSpecified outcome accepted faulty) :
    IsSpecified (outcome.mapError f) accepted
      fun fault => ∃ cause, faulty cause ∧ f cause = fault := by
  refine ⟨?_, fun fault => ?_⟩
  · rw [← specified.accepted_iff]
    simp only [mapError_eq_ok_iff]
  · rw [mapError_eq_error_iff]
    simp only [specified.faulty_iff]

end IsSpecified

end UsageContracts.Outcome
