import UsageContracts.Document.Graph
import UsageContracts.Proofs.Outcome

/-!
# Nesting of values in graphs

Values in a graph may hold themselves, so their nesting has no end.  Quoting one that goes
no deeper than there are places in the graph nevertheless reaches its end, since it goes
into no collection a second time.
-/

namespace UsageContracts

open Outcome

section

variable {α ε δ : Type} {β : Type} {f : α → Except ε β} {g : α → Except δ β} {change : ε → δ}

theorem mapM_mapError (change : ε → δ) (items : List α)
    (eq : ∀ item, g item = (f item).mapError change) :
    items.mapM g = (items.mapM f).mapError change := by
  induction items with
  | nil => rfl
  | cons item items ih =>
      rw [List.mapM_cons, List.mapM_cons, eq, ih]
      cases f item with
      | error fault => rfl
      | ok result => cases items.mapM f <;> rfl

/-- A layer is traversed up to a change of faults if the values inside it are. -/
theorem Layer.traverse_mapError (layer : Layer α)
    (eq : ∀ inner, g inner = (f inner).mapError change) :
    layer.traverse g = (layer.traverse f).mapError change := by
  cases layer with
  | scalar content => rfl
  | list items | tuple items | set items =>
      simp only [traverse, mapM_mapError change items eq]
      cases items.mapM f <;> rfl
  | map entries =>
      have entries_eq := mapM_mapError change entries
        (f := fun entry => do return (← f entry.1, ← f entry.2))
        (g := fun entry => do return (← g entry.1, ← g entry.2))
        fun entry => by
          rw [eq, eq]
          cases f entry.1 with
          | error fault => rfl
          | ok key => cases f entry.2 <;> rfl
      simp only [traverse, entries_eq]
      cases entries.mapM fun entry => do return (← f entry.1, ← f entry.2) <;> rfl

end

namespace Graph

/-- The quoted form of the value at a place, inside the collections on the path.  The fault
is `none` if the value goes deeper than `depth`. -/
def quotedWithin (graph : Graph) : Nat → List Place → Place → Except (Option NumeralFault) Text
  | 0, _, _ => .error none
  | depth + 1, path, place =>
      if (graph.layer place).isCollection then
        if place ∈ path then
          .ok (graph.layer place).cutOff
        else do
          let parts ← (graph.layer place).traverse (graph.quotedWithin depth (place :: path))
          parts.quoted.mapError some
      else
        match graph.layer place with
        | .scalar content => content.quoted.mapError some
        | _ => .ok []

variable {graph : Graph}

/-- A depth beyond the number of places that are not on the path suffices for quoting: each
step down puts one more place on the path. -/
theorem quotedWithin_eq {depth : Nat} {path : List Place} (place : Place)
    (enough : graph.placesLeft path < depth) :
    graph.quotedWithin depth path place = (graph.quotedAt path place).mapError some := by
  induction depth generalizing path place with
  | zero => exact absurd enough (Nat.not_lt_zero _)
  | succ depth ih =>
      rw [quotedWithin, quotedAt]
      cases collection : (graph.layer place).isCollection with
      | false =>
          simp only [Bool.false_eq_true, if_false, dif_neg, not_false_eq_true]
          cases layer_eq : graph.layer place with
          | scalar content => rfl
          | _ => rfl
      | true =>
          simp only [if_true, dif_pos]
          by_cases member : place ∈ path
          · simp [member]
          · have deeper : graph.placesLeft (place :: path) < depth := by
              have less := placesLeft_cons_lt (mem_places_of_isCollection collection) member
              omega
            simp only [member, if_false, not_false_eq_true, dif_pos,
              Layer.traverse_mapError (graph.layer place) fun inner => ih inner deeper]
            cases (graph.layer place).traverse (graph.quotedAt (place :: path)) <;> rfl

/-- However values hold each other, quoting one goes no deeper than there are places. -/
theorem quotedWithin_places (graph : Graph) (place : Place) {depth : Nat}
    (enough : graph.places.length < depth) :
    graph.quotedWithin depth [] place = (graph.quoted place).mapError some := by
  apply quotedWithin_eq
  exact Nat.lt_of_le_of_lt (List.length_filter_le _ _) enough

end Graph

end UsageContracts
