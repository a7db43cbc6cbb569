import Mathlib.Data.List.Forall2
import UsageContracts.Contract.Reading
import UsageContracts.Proofs.Document.Lookup
import UsageContracts.Proofs.Outcome

/-!
# The steps of reading a contract

How a list of parts is read, and what a property gives when its value is known.
-/

namespace UsageContracts

/-! ## Lists of parts -/

/-- What is written item by item and read back item by item is read back. -/
theorem readEach_map {α β ε : Type} {read : Nat → α → Except ε β} {write : β → α}
    (items : List β) (start : Nat)
    (reads : ∀ index, ∀ item ∈ items, read index (write item) = .ok item) :
    readEach read start (items.map write) = .ok items := by
  induction items generalizing start with
  | nil => rfl
  | cons item items ih =>
      have readsRest : ∀ index, ∀ other ∈ items, read index (write other) = .ok other :=
        fun index other member => reads index other (List.mem_cons_of_mem item member)
      rw [List.map_cons, readEach, reads start item List.mem_cons_self, Outcome.ok_bind,
        ih (start + 1) readsRest]
      rfl

theorem readEach_append {α β ε : Type} {read : Nat → α → Except ε β} {start : Nat}
    {first second : List α} {firstResults secondResults : List β}
    (firstRead : readEach read start first = .ok firstResults)
    (secondRead : readEach read (start + first.length) second = .ok secondResults) :
    readEach read start (first ++ second) = .ok (firstResults ++ secondResults) := by
  induction first generalizing start firstResults with
  | nil =>
      obtain rfl : [] = firstResults := by simpa [readEach] using firstRead
      simpa using secondRead
  | cons item first ih =>
      rcases Outcome.bind_eq_ok_iff.mp firstRead with ⟨result, itemRead, restRead⟩
      rcases Outcome.bind_eq_ok_iff.mp restRead with ⟨results, resultsRead, results_eq⟩
      obtain rfl : result :: results = firstResults := by simpa using results_eq
      rw [List.length_cons, Nat.add_comm first.length 1, ← Nat.add_assoc] at secondRead
      rw [List.cons_append, readEach, itemRead, Outcome.ok_bind, ih resultsRead secondRead]
      rfl

/-- Lists of items that are read alike are read alike. -/
theorem readEach_eq_of_forall₂ {α β γ ε : Type} {related : α → β → Prop}
    {read : Nat → α → Except ε γ} {read' : Nat → β → Except ε γ} {items : List α}
    {items' : List β} (are : List.Forall₂ related items items')
    (read_eq : ∀ {item item'}, related item item' → ∀ index,
      read index item = read' index item') (start : Nat) :
    readEach read start items = readEach read' start items' := by
  induction are generalizing start with
  | nil => rfl
  | cons first rest ih => rw [readEach, readEach, read_eq first, ih]

/-! ## Values of properties -/

namespace Value

@[simp]
theorem entriesOf_map (part : Part) (entries : List (Value × Value)) :
    view.entriesOf part (.map entries) = .ok entries :=
  rfl

@[simp]
theorem itemsOf_none (name : Text) : view.itemsOf name none = .ok [] :=
  rfl

@[simp]
theorem itemsOf_list (name : Text) (items : List Value) :
    view.itemsOf name (some (.list items)) = .ok items :=
  rfl

@[simp]
theorem text_text (text : Text) : view.text (.scalar (.text text)) = .ok text :=
  rfl

@[simp]
theorem identifierOf_none : view.identifierOf none = .ok none :=
  rfl

@[simp]
theorem literalOf_none : view.literalOf none = .ok [] :=
  rfl

end Value

/-! ## Right operands -/

namespace TypedValue

variable {α : Type} (view : View α)

/-- The datatype that a map gives by what it has under `@type`. -/
def datatypeOf (type? : Option α) : Except ContractFault Datatype :=
  match type? with
  | none => .ok (.ofIdentifier [])
  | some type => ((view.identifier type).mapError .unwritable).map Datatype.ofIdentifier

/-- The value that the entries of a map give. -/
def ofEntries (entries : List (α × α)) : Except ContractFault TypedValue :=
  match view.find? entries "@value" with
  | none => .error .missingValue
  | some content => do
      let text ← view.text content
      let datatype ← datatypeOf view (view.find? entries "@type")
      return { text, datatype }

/-- A value is read from its first item: from the entries of a map, or from the
display form. -/
theorem read_eq (value : α) :
    read view value =
      match view.firstOf? value with
      | none => ofEntries view []
      | some first =>
          match view.layer first with
          | .map entries => ofEntries view entries
          | _ => do
              let text ← view.text first
              return { text } := by
  have ofEntries_eq : ∀ entries, ofEntries view entries =
      match view.find? entries "@value" with
      | none => .error .missingValue
      | some content => do
          let text ← view.text content
          let datatype ←
            match view.find? entries "@type" with
            | none => .ok (.ofIdentifier [])
            | some datatype =>
                ((view.identifier datatype).mapError .unwritable).map Datatype.ofIdentifier
          return { text, datatype } := by
    intro entries
    unfold ofEntries datatypeOf
    cases view.find? entries "@value" <;> cases view.find? entries "@type" <;> rfl
  simp only [ofEntries_eq]
  rfl

theorem read_map (entries : List (Value × Value)) :
    read Value.view (.map entries) = ofEntries Value.view entries := by
  rw [read_eq]
  rfl

end TypedValue

end UsageContracts
