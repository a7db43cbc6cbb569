import UsageContracts.Proofs.Contract.Agreement
import UsageContracts.Proofs.Contract.Telling
import UsageContracts.Proofs.Document.Copies
import UsageContracts.Proofs.Document.Nesting
import UsageContracts.Proofs.Document.Writable

/-!
# Contracts with shared and cyclic parts

The document of a contract may refer to one of its parts in several places, and a part may
hold itself.  Reading such a document ends with a contract or with a fault that users are
told of.  Sharing has no influence on what is read.
-/

namespace UsageContracts.Policy

/-- Whether users are told of a fault in reading a contract, if there is one. -/
def IsReadOrTold (outcome : Except ContractFault Policy) : Prop :=
  (∃ policy, outcome = .ok policy) ∨
    ∃ fault, outcome = .error fault ∧ (TextFault.contract fault).isReported = true

/-- Through a view that can display everything, a contract is read or its fault is told. -/
theorem isReadOrTold_of_exists_display {α : Type} {view : View α}
    (displays : ∀ value, ∃ text, view.display value = .ok text) (value : α) :
    IsReadOrTold (read view value) := by
  cases read_eq : read view value with
  | ok policy => exact .inl ⟨policy, rfl⟩
  | error fault =>
      refine .inr ⟨fault, rfl, ?_⟩
      cases unreported : (TextFault.contract fault).isReported with
      | true => rfl
      | false =>
          obtain ⟨cause, -, @⟨_, _, type, _, _, _, _, unwritable⟩⟩ :=
            read_unreported_iff.mp ⟨read_eq, unreported⟩
          obtain ⟨text, display_eq⟩ := displays type
          cases unwritable.symm.trans display_eq

/-- However the values in a graph are shared or hold each other, each of them is quoted
within a nesting of as many collections as there are places.  If no integer has too many
digits, every value has a display form, and a contract is read or a fault is told.  A value
that does not lead back to itself, and no other one, has a copy without sharing, and the
copy is read like the value. -/
theorem reading_ends_and_ignores_sharing (graph : Graph) (root : Place) :
    (∀ place depth, graph.places.length < depth →
      graph.quotedWithin depth [] place = (graph.quoted place).mapError some) ∧
    (graph.IsWritable →
      (∀ place, ∃ text, graph.view.display place = .ok text) ∧
        IsReadOrTold (read graph.view root)) ∧
    (graph.IsAcyclicFrom root ↔ ∃! value, graph.IsCopy root value) ∧
    ∀ value, graph.IsCopy root value → read graph.view root = read Value.view value := by
  refine ⟨fun place depth => graph.quotedWithin_places place, fun writable => ?_,
    graph.isAcyclicFrom_iff_exists_isCopy root, fun value copy => ?_⟩
  · have displays := Graph.exists_display writable
    exact ⟨displays, isReadOrTold_of_exists_display displays root⟩
  · exact graph.view_agrees_copies.policy_eq copy

/-- A contract whose title is a list that holds itself. -/
def cyclicSample : Graph :=
  { cells :=
      #[.value (.map [(.cell 1, .cell 2)]),
        .value (.scalar (.text "permission")),
        .value (.map [(.cell 3, .cell 4)]),
        .value (.scalar (.text "title")),
        .value (.list [.cell 5]),
        .value (.list [.cell 3, .cell 5])] }

example : (read cyclicSample.view (.cell 0)).toOption.map (·.rules.map (·.title)) =
    some [("['title', [...]]" : Text)] := by
  decide +kernel

/-- A contract that lists one rule twice, whose title and description are the same list. -/
def sharedSample : Graph :=
  { cells :=
      #[.value (.map [(.cell 1, .cell 2)]),
        .value (.scalar (.text "permission")),
        .value (.list [.cell 3, .cell 3]),
        .value (.map [(.cell 4, .cell 6), (.cell 5, .cell 6)]),
        .value (.scalar (.text "title")),
        .value (.scalar (.text "description")),
        .value (.list [.cell 7]),
        .value (.list [.cell 8, .cell 8]),
        .value (.scalar (.integer 5))] }

/-- A number of a place that is smaller than those of the places inside it. -/
def sampleRank : Place → Nat
  | .cell id => id
  | .pair id _ => id

theorem sharedSample_read_eq_copy :
    sharedSample.IsWritable ∧ IsReadOrTold (read sharedSample.view (.cell 0)) ∧
      sharedSample.IsCopy (.cell 0) (sharedSample.unfold (.cell 0)) ∧
      read sharedSample.view (.cell 0) = read Value.view (sharedSample.unfold (.cell 0)) := by
  have writable : sharedSample.IsWritable :=
    Graph.isWritable_of_forall_places (by decide +kernel)
  have acyclic : sharedSample.IsAcyclicFrom (.cell 0) :=
    Graph.isAcyclicFrom_of_lt sampleRank (by decide) (.cell 0)
  have copy := Graph.isCopy_unfold acyclic
  obtain ⟨-, ends, -, read_eq⟩ := reading_ends_and_ignores_sharing sharedSample (.cell 0)
  exact ⟨writable, (ends writable).2, copy, read_eq _ copy⟩

end UsageContracts.Policy
