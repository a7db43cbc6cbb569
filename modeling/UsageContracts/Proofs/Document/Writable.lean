import UsageContracts.Document.Graph
import UsageContracts.Proofs.Outcome

/-!
# Values that can be written

Only integers with too many digits have no display form.  A value without such
integers can be written, and so can every value inside it.
-/

namespace UsageContracts

/-- Whether a scalar is no integer with too many digits. -/
def Scalar.IsWritable : Scalar → Prop
  | .integer value => value.natAbs < Nat.pow 10 longestInteger
  | _ => True

instance (content : Scalar) : Decidable content.IsWritable := by
  unfold Scalar.IsWritable
  split <;> infer_instance

namespace Value

mutual

/-- Whether no integer in a value has too many digits. -/
def IsWritable : Value → Prop
  | .scalar content => content.IsWritable
  | .list items => AreWritable items
  | .tuple items => AreWritable items
  | .set members => AreWritable members
  | .map entries => EntriesAreWritable entries
termination_by structural value => value

/-- Whether no integer in the items of a collection has too many digits. -/
def AreWritable : List Value → Prop
  | [] => True
  | item :: items => IsWritable item ∧ AreWritable items
termination_by structural items => items

/-- Whether no integer in the entries of a map has too many digits. -/
def EntriesAreWritable : List (Value × Value) → Prop
  | [] => True
  | entry :: entries => EntryIsWritable entry ∧ EntriesAreWritable entries
termination_by structural entries => entries

/-- Whether no integer in an entry of a map has too many digits. -/
def EntryIsWritable : Value × Value → Prop
  | (key, value) => IsWritable key ∧ IsWritable value
termination_by structural entry => entry

end

theorem areWritable_iff {items : List Value} :
    AreWritable items ↔ ∀ item ∈ items, item.IsWritable := by
  induction items with
  | nil => simp [AreWritable]
  | cons item items ih => simp [AreWritable, ih]

theorem entriesAreWritable_iff {entries : List (Value × Value)} :
    EntriesAreWritable entries ↔
      ∀ entry ∈ entries, entry.1.IsWritable ∧ entry.2.IsWritable := by
  induction entries with
  | nil => simp [EntriesAreWritable]
  | cons entry entries ih =>
      rcases entry with ⟨key, value⟩
      simp [EntriesAreWritable, EntryIsWritable, ih]

/-- What a writable map holds is writable. -/
theorem isWritable_of_find? {entries : List (Value × Value)} {key : Text} {value : Value}
    (writable : EntriesAreWritable entries) (found : view.find? entries key = some value) :
    value.IsWritable := by
  rcases Option.map_eq_some_iff.mp found with ⟨entry, entryFound, rfl⟩
  exact (entriesAreWritable_iff.mp writable entry (List.mem_of_find?_eq_some entryFound)).2

end Value

/-! ## Writing succeeds -/

theorem Scalar.exists_display {content : Scalar} (writable : content.IsWritable) :
    ∃ text, content.display = .ok text := by
  cases content with
  | integer value =>
      have short : value.natAbs < Nat.pow 10 longestInteger := writable
      exact ⟨Text.signedDecimal value, by rw [display, integerText, if_pos short]⟩
  | _ => exact ⟨_, rfl⟩

theorem Scalar.exists_quoted {content : Scalar} (writable : content.IsWritable) :
    ∃ text, content.quoted = .ok text := by
  cases content with
  | text | date | moment | pattern => exact ⟨_, rfl⟩
  | _ => simpa only [Scalar.quoted] using Scalar.exists_display writable

theorem Layer.exists_quoted_of_isCollection (layer : Layer Text)
    (collection : layer.isCollection = true) : ∃ text, layer.quoted = .ok text := by
  cases layer with
  | scalar content => simp [isCollection] at collection
  | list items => exact ⟨_, rfl⟩
  | tuple items => rcases items with _ | ⟨first, _ | ⟨second, rest⟩⟩ <;> exact ⟨_, rfl⟩
  | set members => cases members <;> exact ⟨_, rfl⟩
  | map entries => exact ⟨_, rfl⟩

namespace Value

mutual

theorem exists_quoted : ∀ {value : Value}, value.IsWritable → ∃ text, value.quoted = .ok text
  | .scalar _, writable => Scalar.exists_quoted writable
  | .list items, writable => by
      rcases exists_quotedItems items writable with ⟨texts, texts_eq⟩
      simpa [quoted, texts_eq] using Layer.exists_quoted_of_isCollection (.list texts) rfl
  | .tuple items, writable => by
      rcases exists_quotedItems items writable with ⟨texts, texts_eq⟩
      simpa [quoted, texts_eq] using Layer.exists_quoted_of_isCollection (.tuple texts) rfl
  | .set members, writable => by
      rcases exists_quotedItems members writable with ⟨texts, texts_eq⟩
      simpa [quoted, texts_eq] using Layer.exists_quoted_of_isCollection (.set texts) rfl
  | .map entries, writable => by
      rcases exists_quotedEntries entries writable with ⟨texts, texts_eq⟩
      simpa [quoted, texts_eq] using Layer.exists_quoted_of_isCollection (.map texts) rfl

theorem exists_quotedItems : ∀ items : List Value, AreWritable items →
    ∃ texts, quotedItems items = .ok texts
  | [], _ => ⟨[], rfl⟩
  | _ :: items, writable => by
      rcases exists_quoted writable.1 with ⟨text, text_eq⟩
      rcases exists_quotedItems items writable.2 with ⟨texts, texts_eq⟩
      exact ⟨text :: texts, by simp [quotedItems, text_eq, texts_eq]⟩

theorem exists_quotedEntries : ∀ entries : List (Value × Value), EntriesAreWritable entries →
    ∃ texts, quotedEntries entries = .ok texts
  | [], _ => ⟨[], rfl⟩
  | _ :: entries, writable => by
      rcases exists_quotedEntry writable.1 with ⟨text, text_eq⟩
      rcases exists_quotedEntries entries writable.2 with ⟨texts, texts_eq⟩
      exact ⟨text :: texts, by simp [quotedEntries, text_eq, texts_eq]⟩

theorem exists_quotedEntry : ∀ {entry : Value × Value}, EntryIsWritable entry →
    ∃ text, quotedEntry entry = .ok text
  | (_, _), writable => by
      rcases exists_quoted writable.1 with ⟨key, key_eq⟩
      rcases exists_quoted writable.2 with ⟨text, text_eq⟩
      exact ⟨(key, text), by simp [quotedEntry, key_eq, text_eq]⟩

end

/-- A writable value has a display form. -/
theorem exists_display {value : Value} (writable : value.IsWritable) :
    ∃ text, view.display value = .ok text := by
  cases value with
  | scalar content => exact Scalar.exists_display writable
  | _ => exact exists_quoted writable

end Value

/-! ## Writing succeeds on nothing else -/

theorem Scalar.isWritable_of_display {content : Scalar} {text : Text}
    (display_eq : content.display = .ok text) : content.IsWritable := by
  cases content with
  | integer value =>
      rw [display, integerText] at display_eq
      split at display_eq
      · next short => exact short
      · cases display_eq
  | _ => trivial

theorem Scalar.isWritable_of_quoted {content : Scalar} {text : Text}
    (quoted_eq : content.quoted = .ok text) : content.IsWritable := by
  cases content with
  | integer value => exact isWritable_of_display quoted_eq
  | _ => trivial

namespace Value

mutual

theorem isWritable_of_quoted : ∀ {value : Value} {text : Text},
    value.quoted = .ok text → value.IsWritable
  | .scalar _, _, quoted_eq => Scalar.isWritable_of_quoted quoted_eq
  | .list _, _, quoted_eq | .tuple _, _, quoted_eq | .set _, _, quoted_eq => by
      obtain ⟨texts, texts_eq, -⟩ := Outcome.bind_eq_ok_iff.mp quoted_eq
      exact areWritable_of_quotedItems texts_eq
  | .map _, _, quoted_eq => by
      obtain ⟨texts, texts_eq, -⟩ := Outcome.bind_eq_ok_iff.mp quoted_eq
      exact entriesAreWritable_of_quotedEntries texts_eq

theorem areWritable_of_quotedItems : ∀ {items : List Value} {texts : List Text},
    quotedItems items = .ok texts → AreWritable items
  | [], _, _ => trivial
  | _ :: _, _, texts_eq => by
      obtain ⟨text, text_eq, texts_eq⟩ := Outcome.bind_eq_ok_iff.mp texts_eq
      obtain ⟨texts, texts_eq, -⟩ := Outcome.bind_eq_ok_iff.mp texts_eq
      exact ⟨isWritable_of_quoted text_eq, areWritable_of_quotedItems texts_eq⟩

theorem entriesAreWritable_of_quotedEntries : ∀ {entries : List (Value × Value)}
    {texts : List (Text × Text)},
    quotedEntries entries = .ok texts → EntriesAreWritable entries
  | [], _, _ => trivial
  | _ :: _, _, texts_eq => by
      obtain ⟨text, text_eq, texts_eq⟩ := Outcome.bind_eq_ok_iff.mp texts_eq
      obtain ⟨texts, texts_eq, -⟩ := Outcome.bind_eq_ok_iff.mp texts_eq
      exact ⟨entryIsWritable_of_quotedEntry text_eq, entriesAreWritable_of_quotedEntries texts_eq⟩

theorem entryIsWritable_of_quotedEntry : ∀ {entry : Value × Value} {text : Text × Text},
    quotedEntry entry = .ok text → EntryIsWritable entry
  | (_, _), _, text_eq => by
      obtain ⟨key, key_eq, text_eq⟩ := Outcome.bind_eq_ok_iff.mp text_eq
      obtain ⟨text, text_eq, -⟩ := Outcome.bind_eq_ok_iff.mp text_eq
      exact ⟨isWritable_of_quoted key_eq, isWritable_of_quoted text_eq⟩

end

/-- Exactly the writable values have display forms. -/
theorem exists_display_iff {value : Value} :
    (∃ text, view.display value = .ok text) ↔ value.IsWritable := by
  constructor
  · rintro ⟨text, display_eq⟩
    cases value with
    | scalar content => exact Scalar.isWritable_of_display display_eq
    | _ => exact isWritable_of_quoted display_eq
  · exact exists_display

end Value

/-! ## Values in graphs -/

section

variable {α β ε : Type} {write : α → Except ε β}

theorem exists_mapM_eq_ok {items : List α} (each : ∀ item, ∃ result, write item = .ok result) :
    ∃ results, items.mapM write = .ok results := by
  induction items with
  | nil => exact ⟨[], rfl⟩
  | cons item items ih =>
      rcases each item with ⟨result, result_eq⟩
      rcases ih with ⟨results, results_eq⟩
      exact ⟨result :: results, by simp [result_eq, results_eq]⟩

/-- A layer is written if every value inside it is. -/
theorem Layer.exists_traverse (each : ∀ inner, ∃ result, write inner = .ok result)
    (layer : Layer α) :
    ∃ written, layer.traverse write = .ok written ∧ written.isCollection = layer.isCollection := by
  cases layer with
  | scalar content => exact ⟨.scalar content, rfl, rfl⟩
  | list items =>
      rcases exists_mapM_eq_ok each with ⟨results, results_eq⟩
      exact ⟨.list results, by rw [traverse, results_eq, Except.map_ok], rfl⟩
  | tuple items =>
      rcases exists_mapM_eq_ok each with ⟨results, results_eq⟩
      exact ⟨.tuple results, by rw [traverse, results_eq, Except.map_ok], rfl⟩
  | set members =>
      rcases exists_mapM_eq_ok each with ⟨results, results_eq⟩
      exact ⟨.set results, by rw [traverse, results_eq, Except.map_ok], rfl⟩
  | map entries =>
      let writeEntry : α × α → Except ε (β × β) :=
        fun (key, value) => return (← write key, ← write value)
      have eachEntry (entry : α × α) : ∃ result, writeEntry entry = .ok result := by
        rcases each entry.1 with ⟨key, key_eq⟩
        rcases each entry.2 with ⟨value, value_eq⟩
        exact ⟨(key, value), by simp [writeEntry, key_eq, value_eq]⟩
      obtain ⟨results, results_eq⟩ : ∃ results, entries.mapM writeEntry = .ok results :=
        exists_mapM_eq_ok eachEntry
      exact ⟨.map results, by rw [traverse, results_eq, Except.map_ok], rfl⟩

end

/-- The scalar that a layer is. -/
def Layer.scalar? {α : Type} : Layer α → Option Scalar
  | .scalar content => some content
  | _ => none

namespace Graph

/-- Whether no integer in a graph has too many digits. -/
def IsWritable (graph : Graph) : Prop :=
  ∀ place content, graph.layer place = .scalar content → content.IsWritable

/-- Beyond its places there are only nulls in a graph. -/
theorem layer_of_not_mem_places {graph : Graph} {place : Place} (outside : place ∉ graph.places) :
    graph.layer place = .scalar .null := by
  cases place with
  | cell id =>
      rw [layer]
      split
      · rfl
      all_goals
        next found =>
          have bound := (Array.getElem?_eq_some_iff.mp found).1
          exact (outside (by simpa [places] using bound)).elim
  | pair id index =>
      rw [layer]
      split
      · rfl
      · next found =>
          refine (outside (mem_places_of_isCollection ?_)).elim
          rw [layer, found]
          rfl

/-- A graph without too long integers at its places has none. -/
theorem isWritable_of_forall_places {graph : Graph}
    (writable : ∀ place ∈ graph.places, ∀ content ∈ (graph.layer place).scalar?,
      content.IsWritable) : graph.IsWritable := by
  intro place content layer_eq
  by_cases inside : place ∈ graph.places
  · exact writable place inside content (by rw [layer_eq]; rfl)
  · rw [layer_of_not_mem_places inside] at layer_eq
    cases layer_eq
    trivial

theorem exists_quotedAt {graph : Graph} (writable : graph.IsWritable) (path : List Place)
    (place : Place) : ∃ text, graph.quotedAt path place = .ok text := by
  fun_induction Graph.quotedAt graph path place with
  | case1 path place collection fresh ih =>
      obtain ⟨parts, parts_eq, sameKind⟩ := Layer.exists_traverse ih (graph.layer place)
      obtain ⟨text, text_eq⟩ := parts.exists_quoted_of_isCollection (sameKind.trans collection)
      exact ⟨text, by rw [parts_eq, Outcome.ok_bind, text_eq]⟩
  | case2 => exact ⟨_, rfl⟩
  | case3 path place _ content layer_eq =>
      exact Scalar.exists_quoted (writable place content layer_eq)
  | case4 => exact ⟨_, rfl⟩

/-- Whatever is in a writable graph has a display form. -/
theorem exists_display {graph : Graph} (writable : graph.IsWritable) (place : Place) :
    ∃ text, graph.view.display place = .ok text := by
  unfold View.display
  split
  · next content layer_eq => exact Scalar.exists_display (writable place content layer_eq)
  · exact exists_quotedAt writable [] place

end Graph

end UsageContracts
