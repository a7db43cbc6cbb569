import Mathlib.Data.List.Pairwise
import UsageContracts.Proofs.Yaml.Values

/-!
# Names in the maps of a text

No map that is read from a text gives a name two values, and neither does the tree of
such a map.  This holds also of what is left of a map that stands inside itself.
-/

namespace UsageContracts

open Outcome

/-! ## Trees of maps -/

namespace Graph

/-- Whether each map in a graph gives a name at most one value. -/
def HasDistinctNames (graph : Graph) : Prop :=
  ∀ (place : Place) (entries : List (Place × Place)), graph.layer place = .map entries →
    ∀ first ∈ entries, ∀ second ∈ entries, ∀ name : Text,
      graph.layer first.1 = .scalar (.text name) → graph.layer second.1 = .scalar (.text name) →
        first = second

variable {graph : Graph} {path : List Place} {place : Place} {entries : List (Value × Value)}

/-- Only a text has the tree of a text. -/
theorem layer_eq_text_of_unfoldAt {name : Text}
    (unfold_eq : graph.unfoldAt path place = .scalar (.text name)) :
    graph.layer place = .scalar (.text name) := by
  rw [unfoldAt] at unfold_eq
  cases layer_eq : graph.layer place with
  | scalar content =>
      simp only [layer_eq, Layer.isCollection, Bool.false_eq_true, dite_false] at unfold_eq
      cases unfold_eq
      rfl
  | _ =>
      simp only [layer_eq, stub, Layer.isCollection, Layer.mapInner, Value.ofLayer, dite_true]
        at unfold_eq
      split at unfold_eq <;> cases unfold_eq

/-- Names stay distinct where the keys of a map are replaced, if no other key becomes a
text. -/
theorem haveDistinctNames_ofLayer (distinct : graph.HasDistinctNames) {tree : Place → Value}
    (onlyTexts : ∀ (inner : Place) (name : Text), tree inner = .scalar (.text name) →
      graph.layer inner = .scalar (.text name))
    (tree_eq : Value.ofLayer ((graph.layer place).mapInner tree) = .map entries) :
    Value.HaveDistinctNames entries := by
  cases layer_eq : graph.layer place with
  | map inner =>
      rw [layer_eq] at tree_eq
      cases tree_eq
      intro name value other member otherMember
      obtain ⟨first, inFirst, first_eq⟩ := List.mem_map.mp member
      obtain ⟨second, inSecond, second_eq⟩ := List.mem_map.mp otherMember
      obtain ⟨key_eq, rfl⟩ := Prod.ext_iff.mp first_eq
      obtain ⟨otherKey_eq, rfl⟩ := Prod.ext_iff.mp second_eq
      rw [distinct place inner layer_eq first inFirst second inSecond name
        (onlyTexts _ _ key_eq) (onlyTexts _ _ otherKey_eq)]
  | _ =>
      rw [layer_eq] at tree_eq
      cases tree_eq

theorem haveDistinctNames_unfoldAt (distinct : graph.HasDistinctNames)
    (unfold_eq : graph.unfoldAt path place = .map entries) : Value.HaveDistinctNames entries := by
  rw [unfoldAt] at unfold_eq
  split at unfold_eq
  · split at unfold_eq
    · exact haveDistinctNames_ofLayer distinct (fun _ _ => layer_eq_text_of_unfoldAt) unfold_eq
    · refine haveDistinctNames_ofLayer distinct (fun inner name text_eq => ?_) unfold_eq
      split at text_eq
      · next layer_eq =>
          cases text_eq
          exact layer_eq
      · cases text_eq
  · split at unfold_eq <;> cases unfold_eq

end Graph

/-! ## Maps of texts -/

namespace Yaml

namespace ValueTable

variable {table : ValueTable} {id : NodeId} {layer : Layer Place}

/-- Keys are the same if they are the same text. -/
theorem isSameKey_of_text {left right : NodeId} {name : Text}
    (left_eq : table.keyScalar left = .text name) (right_eq : table.keyScalar right = .text name) :
    table.isSameKey left right = true := by
  simp [isSameKey, left_eq, right_eq, Scalar.isSameKey, Scalar.magnitude?]

/-- The cell of a node can be told from its layer, unless that is one of a list of pairs or
of no node at all. -/
theorem cellOf_eq_of_graph_layer (layer_eq : table.graph.layer (.cell id) = layer)
    (notNull : layer ≠ .scalar .null) (notList : ∀ items, layer ≠ .list items) :
    table.cellOf id = .value layer := by
  cases found : table.graph.cells[id]? with
  | none =>
      simp only [Graph.layer, found] at layer_eq
      exact (notNull layer_eq.symm).elim
  | some cell =>
      have cell_eq : table.cellOf id = cell := by
        obtain ⟨_, rfl⟩ := Array.getElem?_eq_some_iff.mp found
        simp [graph]
      simp only [Graph.layer, found] at layer_eq
      cases cell with
      | value own => rw [cell_eq, ← layer_eq]
      | pairs entries => exact (notList _ layer_eq.symm).elim

theorem keyScalar_eq_of_graph_layer {name : Text}
    (layer_eq : table.graph.layer (.cell id) = .scalar (.text name)) :
    table.keyScalar id = .text name := by
  have cell_eq := cellOf_eq_of_graph_layer layer_eq (by simp) (by simp)
  unfold cellOf at cell_eq
  split at cell_eq <;> injections

theorem entries_eq_of_graph_layer {place : Place} {entries : List (Place × Place)}
    (layer_eq : table.graph.layer place = .map entries) :
    ∃ own, entries =
      (mergeEntries table.isSameKey own).map fun entry => (.cell entry.1, .cell entry.2) := by
  cases place with
  | pair id index =>
      rw [Graph.layer] at layer_eq
      split at layer_eq <;> cases layer_eq
  | cell id =>
      have cell_eq := cellOf_eq_of_graph_layer layer_eq (by simp) (by simp)
      unfold cellOf at cell_eq
      split at cell_eq <;> cases cell_eq
      exact ⟨_, rfl⟩

theorem graph_hasDistinctNames (table : ValueTable) : table.graph.HasDistinctNames := by
  intro place entries layer_eq first inFirst second inSecond name first_eq second_eq
  obtain ⟨own, rfl⟩ := entries_eq_of_graph_layer layer_eq
  obtain ⟨left, inLeft, rfl⟩ := List.mem_map.mp inFirst
  obtain ⟨right, inRight, rfl⟩ := List.mem_map.mp inSecond
  have left_eq := keyScalar_eq_of_graph_layer first_eq
  have right_eq := keyScalar_eq_of_graph_layer second_eq
  -- Whichever of two entries stands first, not both have the name.
  have notBoth : (mergeEntries table.isSameKey own).Pairwise fun earlier later =>
      ¬ (table.keyScalar earlier.1 = .text name ∧ table.keyScalar later.1 = .text name) := by
    refine (mergeEntries_pairwise own).imp fun {earlier later} differ both => ?_
    rw [isSameKey_of_text both.1 both.2] at differ
    cases differ
  by_contra entries_ne
  have symmetric : Std.Symm fun earlier later : NodeId × NodeId =>
      ¬ (table.keyScalar earlier.1 = .text name ∧ table.keyScalar later.1 = .text name) :=
    ⟨fun _ _ notBoth both => notBoth both.symm⟩
  exact notBoth.forall inLeft inRight (fun same => entries_ne (by rw [same])) ⟨left_eq, right_eq⟩

end ValueTable

/-- The maps that are read from a text give a name at most one value. -/
theorem hasDistinctNames_of_read {text : Text} {document : Document}
    (read_eq : read text = .ok (some document)) : document.graph.HasDistinctNames := by
  unfold read at read_eq
  split at read_eq
  · cases read_eq
  · next characters _ =>
      split at read_eq
      · cases read_eq
      · obtain ⟨nodeDocument?, -, read_eq⟩ := bind_eq_ok_iff.mp read_eq
        cases nodeDocument? with
        | none => cases read_eq
        | some nodeDocument =>
            obtain ⟨value, value_eq, read_eq⟩ := bind_eq_ok_iff.mp read_eq
            cases read_eq
            obtain ⟨queue, -, value_eq⟩ := bind_eq_ok_iff.mp value_eq
            obtain ⟨table, -, value_eq⟩ := bind_eq_ok_iff.mp value_eq
            cases value_eq
            exact table.graph_hasDistinctNames

end Yaml

end UsageContracts
