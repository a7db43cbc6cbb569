import UsageContracts.Document.Value

/-!
# Values as graphs

Document values whose collections may be shared and may hold themselves.  A
graph is a table of cells that refer to each other by their place.  Quoting a
value leaves out a collection where it stands inside itself, so the quoted form
is finite; the proof is that no place occurs twice on a way down.
-/

namespace UsageContracts

/-- A place in a graph: a cell of its table, or one of the pairs in a cell. -/
inductive Place
  | cell (id : Nat)
  | pair (id : Nat) (index : Nat)
deriving DecidableEq

/-- A cell: a value, or a list of pairs, each of which is a tuple of its own. -/
inductive Cell
  | value (layer : Layer Place)
  | pairs (entries : List (Place × Place))

/-- A table of cells. -/
structure Graph where
  cells : Array Cell

namespace Graph

/-- The number of pairs in a cell. -/
def pairCount (graph : Graph) (id : Nat) : Nat :=
  match graph.cells[id]? with
  | some (.pairs entries) => entries.length
  | _ => 0

/-- The pair with the given index in a cell. -/
def pair? (graph : Graph) (id index : Nat) : Option (Place × Place) :=
  match graph.cells[id]? with
  | some (.pairs entries) => entries[index]?
  | _ => none

/-- The outermost layer of the value at a place; beyond the table there are
nulls. -/
def layer (graph : Graph) : Place → Layer Place
  | .cell id =>
      match graph.cells[id]? with
      | none => .scalar .null
      | some (.value layer) => layer
      | some (.pairs entries) => .list ((List.range entries.length).map (.pair id))
  | .pair id index =>
      match graph.pair? id index with
      | none => .scalar .null
      | some (key, value) => .tuple [key, value]

/-- The places in a graph. -/
def places (graph : Graph) : List Place :=
  (List.range graph.cells.size).flatMap fun id =>
    .cell id :: (List.range (graph.pairCount id)).map (.pair id)

/-- A collection is at one of the places in its graph. -/
theorem mem_places_of_isCollection {graph : Graph} {place : Place}
    (collection : (graph.layer place).isCollection = true) : place ∈ graph.places := by
  cases place with
  | cell id =>
      simp only [layer] at collection
      split at collection
      · simp [Layer.isCollection] at collection
      · next found =>
          have bound := (Array.getElem?_eq_some_iff.mp found).1
          simpa [places] using bound
      · next found =>
          have bound := (Array.getElem?_eq_some_iff.mp found).1
          simpa [places] using bound
  | pair id index =>
      simp only [layer, pair?] at collection
      split at collection
      · simp [Layer.isCollection] at collection
      · next found =>
          split at found
          · next entries cell =>
              have bound := (Array.getElem?_eq_some_iff.mp cell).1
              have inside := (List.getElem?_eq_some_iff.mp found).1
              have count : graph.pairCount id = entries.length := by
                simp only [pairCount, cell]
              simp [places, bound, count, inside]
          · simp at found

/-- The number of places that are not on a path. -/
def placesLeft (graph : Graph) (path : List Place) : Nat :=
  (graph.places.filter (· ∉ path)).length

/-- A step to a place that is not yet on the path leaves fewer places. -/
theorem placesLeft_cons_lt {graph : Graph} {path : List Place} {place : Place}
    (inside : place ∈ graph.places) (fresh : place ∉ path) :
    graph.placesLeft (place :: path) < graph.placesLeft path := by
  have split : graph.places.filter (· ∉ place :: path) =
      (graph.places.filter (· ∉ path)).filter (· ≠ place) := by
    rw [List.filter_filter]
    congr 1
    funext other
    simp [not_or]
  unfold placesLeft
  rw [split]
  apply List.length_filter_lt_length_iff_exists.mpr
  exact ⟨place, by simp [inside, fresh]⟩

/-- The quoted form of the value at a place, inside the collections on the
path. -/
def quotedAt (graph : Graph) (path : List Place) (place : Place) :
    Except NumeralFault Text :=
  if _ : (graph.layer place).isCollection then
    if _ : place ∉ path then do
      let parts ← (graph.layer place).traverse (graph.quotedAt (place :: path))
      parts.quoted
    else
      .ok (graph.layer place).cutOff
  else
    match graph.layer place with
    | .scalar content => content.quoted
    | _ => .ok []
termination_by graph.placesLeft path
decreasing_by exact placesLeft_cons_lt (mem_places_of_isCollection ‹_›) ‹_›

/-- The quoted form of the value at a place. -/
def quoted (graph : Graph) (place : Place) : Except NumeralFault Text :=
  graph.quotedAt [] place

/-- The view of values in a graph by their places. -/
def view (graph : Graph) : View Place :=
  { layer := graph.layer
    quoted := graph.quoted }

/-- The collection at a place without the collections inside it; nulls stand for
them. -/
def stub (graph : Graph) (place : Place) : Value :=
  .ofLayer <| (graph.layer place).mapInner fun inner =>
    match graph.layer inner with
    | .scalar content => .scalar content
    | _ => .null

/-- The tree of the value at a place, inside the collections on the path.  Where a
collection stands inside itself, its stub is left. -/
def unfoldAt (graph : Graph) (path : List Place) (place : Place) : Value :=
  if _ : (graph.layer place).isCollection then
    if _ : place ∉ path then
      .ofLayer ((graph.layer place).mapInner (graph.unfoldAt (place :: path)))
    else
      graph.stub place
  else
    match graph.layer place with
    | .scalar content => .scalar content
    | _ => .null
termination_by graph.placesLeft path
decreasing_by exact placesLeft_cons_lt (mem_places_of_isCollection ‹_›) ‹_›

/-- The tree of the value at a place. -/
def unfold (graph : Graph) (place : Place) : Value :=
  graph.unfoldAt [] place

end Graph

end UsageContracts
