import Mathlib.Logic.Relation
import UsageContracts.Document.Graph
import UsageContracts.Proofs.Document.Agreement
import UsageContracts.Proofs.Outcome

/-!
# Copies of values in graphs

A tree is a copy of a value in a graph if it holds a copy of its own wherever the value
refers to another one.  A value has a copy exactly if nothing that it leads to leads back
to itself; the copy is then the only one, and is quoted like the value.
-/

namespace UsageContracts

/-! ## Related layers -/

/-- The values inside a layer. -/
def Layer.inner {α : Type} : Layer α → List α
  | .scalar _ => []
  | .list items => items
  | .tuple items => items
  | .set members => members
  | .map entries => entries.flatMap fun entry => [entry.1, entry.2]

theorem Layer.mem_inner_map {α : Type} {entries : List (α × α)} {entry : α × α}
    (member : entry ∈ entries) :
    entry.1 ∈ (Layer.map entries).inner ∧ entry.2 ∈ (Layer.map entries).inner := by
  simp only [inner, List.mem_flatMap]
  exact ⟨⟨entry, member, by simp⟩, ⟨entry, member, by simp⟩⟩

section

variable {α β : Type} {related : α → β → Prop}

theorem forall₂_of_forall_mem {items : List α} {items' : List β}
    (are : List.Forall₂ related items items') {other : α → β → Prop}
    (weaker : ∀ item ∈ items, ∀ item' ∈ items', related item item' → other item item') :
    List.Forall₂ other items items' := by
  induction are with
  | nil => exact .nil
  | cons first rest ih =>
      refine .cons (weaker _ (by simp) _ (by simp) first) (ih fun item member item' member' => ?_)
      exact weaker item (by simp [member]) item' (by simp [member'])

theorem mapM_eq_of_forall₂ {ε δ : Type} {items : List α} {items' : List β}
    (are : List.Forall₂ related items items') {f : α → Except ε δ} {g : β → Except ε δ}
    (eq : ∀ {item item'}, related item item' → f item = g item') :
    items.mapM f = items'.mapM g := by
  induction are with
  | nil => rfl
  | cons first rest ih => rw [List.mapM_cons, List.mapM_cons, eq first, ih]

theorem eq_of_forall₂ {items : List α} {first second : List β} {other : α → β → Prop}
    (are : List.Forall₂ related items first) (alsoAre : List.Forall₂ other items second)
    (unique : ∀ {item one another}, related item one → other item another → one = another) :
    first = second := by
  induction are generalizing second with
  | nil =>
      cases alsoAre
      rfl
  | cons one rest ih =>
      cases alsoAre with
      | cons another others => rw [unique one another, ih others]

theorem forall₂_inner {entries : List (α × α)} {entries' : List (β × β)}
    (are : RelatedEntries related entries entries') :
    List.Forall₂ related (Layer.map entries).inner (Layer.map entries').inner := by
  induction are with
  | nil => exact .nil
  | cons both _ ih => exact .cons both.1 (.cons both.2 ih)

namespace Layer.Related

variable {layer : Layer α} {layer' : Layer β}

/-- Layers stay related if the values inside them are related in another way. -/
theorem of_forall_inner (are : Related related layer layer') {other : α → β → Prop}
    (weaker : ∀ value ∈ layer.inner, ∀ value' ∈ layer'.inner,
      related value value' → other value value') : Related other layer layer' := by
  cases are with
  | scalar => exact .scalar
  | list items => exact .list (forall₂_of_forall_mem items weaker)
  | tuple items => exact .tuple (forall₂_of_forall_mem items weaker)
  | set members => exact .set (forall₂_of_forall_mem members weaker)
  | map entries =>
      refine .map (forall₂_of_forall_mem entries fun entry member entry' member' both => ?_)
      have inside := mem_inner_map member
      have inside' := mem_inner_map member'
      exact ⟨weaker _ inside.1 _ inside'.1 both.1, weaker _ inside.2 _ inside'.2 both.2⟩

theorem mono (are : Related related layer layer') {other : α → β → Prop}
    (weaker : ∀ {value value'}, related value value' → other value value') :
    Related other layer layer' :=
  are.of_forall_inner fun _ _ _ _ => weaker

/-- Related layers are traversed alike. -/
theorem traverse_eq {ε δ : Type} (are : Related related layer layer') {f : α → Except ε δ}
    {g : β → Except ε δ} (eq : ∀ {value value'}, related value value' → f value = g value') :
    layer.traverse f = layer'.traverse g := by
  cases are with
  | scalar => rfl
  | list items | tuple items | set items => simp only [traverse, mapM_eq_of_forall₂ items eq]
  | map entries =>
      have entries_eq := mapM_eq_of_forall₂ entries
        (f := fun entry => do return (← f entry.1, ← f entry.2))
        (g := fun entry => do return (← g entry.1, ← g entry.2))
        fun {entry entry'} both => by rw [eq both.1, eq both.2]
      simp only [traverse, entries_eq]

/-- A layer is related to one layer only if its values are related to one value each. -/
theorem unique (are : Related related layer layer') {other : α → β → Prop} {layer'' : Layer β}
    (alsoAre : Related other layer layer'')
    (unique : ∀ {value one another}, related value one → other value another → one = another) :
    layer' = layer'' := by
  cases are with
  | scalar =>
      cases alsoAre
      rfl
  | list items =>
      cases alsoAre with
      | list others => rw [eq_of_forall₂ items others unique]
  | tuple items =>
      cases alsoAre with
      | tuple others => rw [eq_of_forall₂ items others unique]
  | set members =>
      cases alsoAre with
      | set others => rw [eq_of_forall₂ members others unique]
  | map entries =>
      cases alsoAre with
      | map others =>
          rw [eq_of_forall₂ entries others fun both alsoBoth =>
            Prod.ext (unique both.1 alsoBoth.1) (unique both.2 alsoBoth.2)]

/-- What is inside a layer is related to something inside a related layer. -/
theorem exists_inner (are : Related related layer layer') {value : α}
    (inside : value ∈ layer.inner) : ∃ value' ∈ layer'.inner, related value value' := by
  have inList {items : List α} {items' : List β} (are : List.Forall₂ related items items')
      (member : value ∈ items) : ∃ value' ∈ items', related value value' := by
    induction are with
    | nil => cases member
    | @cons first first' rest rest' isRelated _ ih =>
        rcases List.mem_cons.mp member with rfl | later
        · exact ⟨first', by simp, isRelated⟩
        · rcases ih later with ⟨value', member', isRelated'⟩
          exact ⟨value', by simp [member'], isRelated'⟩
  cases are with
  | scalar => cases inside
  | list items | tuple items | set items => exact inList items inside
  | map entries => exact inList (forall₂_inner entries) inside

end Layer.Related

/-- A layer is related to the layer that a function makes of it. -/
theorem Layer.related_mapInner {f : α → β} {layer : Layer α}
    (are : ∀ value ∈ layer.inner, related value (f value)) :
    Related related layer (layer.mapInner f) := by
  have forall₂_map {γ δ : Type} {relatedAs : γ → δ → Prop} {g : γ → δ} {items : List γ}
      (are : ∀ item ∈ items, relatedAs item (g item)) :
      List.Forall₂ relatedAs items (items.map g) :=
    List.forall₂_map_right_iff.mpr (List.forall₂_same.mpr are)
  cases layer with
  | scalar content => exact .scalar
  | list items => exact .list (forall₂_map are)
  | tuple items => exact .tuple (forall₂_map are)
  | set members => exact .set (forall₂_map are)
  | map entries =>
      refine .map (forall₂_map fun entry member => ?_)
      exact ⟨are _ (mem_inner_map member).1, are _ (mem_inner_map member).2⟩

end

/-! ## Trees -/

namespace Value

theorem layer_ofLayer (layer : Layer Value) : (ofLayer layer).layer = layer := by
  cases layer <;> rfl

theorem ofLayer_layer (value : Value) : ofLayer value.layer = value := by
  cases value <;> rfl

theorem sizeOf_lt_of_mem_inner {value inner : Value} (inside : inner ∈ value.layer.inner) :
    sizeOf inner < sizeOf value := by
  cases value with
  | scalar content => cases inside
  | list items | tuple items | set items =>
      have smaller := List.sizeOf_lt_of_mem (show inner ∈ items from inside)
      simp only [list.sizeOf_spec, tuple.sizeOf_spec, set.sizeOf_spec]
      omega
  | map entries =>
      rcases List.mem_flatMap.mp inside with ⟨⟨key, content⟩, member, isPart⟩
      have smaller := List.sizeOf_lt_of_mem member
      have parts : inner = key ∨ inner = content := by simpa using isPart
      simp only [map.sizeOf_spec, Prod.mk.sizeOf_spec] at smaller ⊢
      rcases parts with rfl | rfl <;> omega

/-- The quoted form of a collection is made of those of the values inside it. -/
theorem quoted_eq_traverse {value : Value} (collection : value.layer.isCollection = true) :
    value.quoted = value.layer.traverse quoted >>= Layer.quoted := by
  have quotedItems_eq (items : List Value) : quotedItems items = items.mapM quoted := by
    induction items with
    | nil => rfl
    | cons item items ih => rw [quotedItems, List.mapM_cons, ih]
  have quotedEntries_eq (entries : List (Value × Value)) : quotedEntries entries =
      entries.mapM fun entry => do return (← quoted entry.1, ← quoted entry.2) := by
    induction entries with
    | nil => rfl
    | cons entry entries ih => rw [quotedEntries, List.mapM_cons, ih, quotedEntry]
  cases value with
  | scalar content => cases collection
  | list items | tuple items | set items =>
      simp only [quoted, layer, Layer.traverse, quotedItems_eq]
      cases items.mapM quoted <;> rfl
  | map entries =>
      simp only [quoted, layer, Layer.traverse, quotedEntries_eq]
      cases entries.mapM fun entry => do return (← quoted entry.1, ← quoted entry.2) <;> rfl

end Value

/-! ## Copies -/

namespace Graph

/-- Whether a tree is a copy of the value at a place: it has the layer of that value, with
copies of the values inside it, and so on. -/
def IsCopy (graph : Graph) (place : Place) (value : Value) : Prop :=
  ∃ related : Place → Value → Prop, related place value ∧
    ∀ place value, related place value →
      Layer.Related related (graph.layer place) value.layer

/-- Whether the value at a place refers to that at another one. -/
def Holds (graph : Graph) (outer inner : Place) : Prop :=
  inner ∈ (graph.layer outer).inner

/-- Whether no value that can be reached from a place can be reached from inside itself. -/
def IsAcyclicFrom (graph : Graph) (root : Place) : Prop :=
  ∀ place, Relation.ReflTransGen graph.Holds root place →
    ¬ Relation.TransGen graph.Holds place place

variable {graph : Graph}

theorem IsCopy.layer_related {place : Place} {value : Value} (copy : graph.IsCopy place value) :
    Layer.Related graph.IsCopy (graph.layer place) value.layer := by
  rcases copy with ⟨related, are, layers⟩
  exact (layers place value are).mono fun {inner innerValue} areInside =>
    ⟨related, areInside, layers⟩

/-- The copies of what a value refers to are smaller than the copy of the value. -/
theorem IsCopy.layer_related_inner {place : Place} {value : Value}
    (copy : graph.IsCopy place value) :
    Layer.Related (fun inner part => graph.IsCopy inner part ∧ sizeOf part < sizeOf value)
      (graph.layer place) value.layer :=
  copy.layer_related.of_forall_inner fun _ _ _ inside isCopy =>
    ⟨isCopy, Value.sizeOf_lt_of_mem_inner inside⟩

/-- There is at most one copy of a value.  The proof is by recursion on the first copy,
whose parts are copies of the same values as the parts of the second. -/
theorem IsCopy.unique {place : Place} {value other : Value} (copy : graph.IsCopy place value)
    (another : graph.IsCopy place other) : value = other := by
  have layer_eq : value.layer = other.layer :=
    copy.layer_related_inner.unique another.layer_related fun {_ _ _} isCopy isOther =>
      have := isCopy.2
      isCopy.1.unique isOther
  rw [← value.ofLayer_layer, layer_eq, other.ofLayer_layer]
termination_by sizeOf value

/-- What a value refers to has a copy inside the copy of the value. -/
theorem IsCopy.exists_smaller {place inner : Place} {value : Value}
    (copy : graph.IsCopy place value) (holds : graph.Holds place inner) :
    ∃ part, graph.IsCopy inner part ∧ sizeOf part < sizeOf value := by
  rcases copy.layer_related_inner.exists_inner holds with ⟨part, -, isPart⟩
  exact ⟨part, isPart⟩

theorem IsCopy.exists_of_reachable {place inner : Place} {value : Value}
    (copy : graph.IsCopy place value)
    (reachable : Relation.ReflTransGen graph.Holds place inner) :
    ∃ part, graph.IsCopy inner part := by
  induction reachable with
  | refl => exact ⟨value, copy⟩
  | tail _ holds ih =>
      rcases ih with ⟨middle, isCopy⟩
      rcases isCopy.exists_smaller holds with ⟨part, isPart, -⟩
      exact ⟨part, isPart⟩

theorem IsCopy.exists_smaller_of_reachable {place inner : Place} {value : Value}
    (copy : graph.IsCopy place value)
    (reachable : Relation.TransGen graph.Holds place inner) :
    ∃ part, graph.IsCopy inner part ∧ sizeOf part < sizeOf value := by
  induction reachable with
  | single holds => exact copy.exists_smaller holds
  | tail _ holds ih =>
      rcases ih with ⟨middle, isCopy, smaller⟩
      rcases isCopy.exists_smaller holds with ⟨part, isPart, evenSmaller⟩
      exact ⟨part, isPart, Nat.lt_trans evenSmaller smaller⟩

/-- A value that has a copy does not lead back to itself, for its copy would be a part of
itself. -/
theorem IsCopy.isAcyclicFrom {place : Place} {value : Value} (copy : graph.IsCopy place value) :
    graph.IsAcyclicFrom place := by
  intro inner reachable cycle
  rcases copy.exists_of_reachable reachable with ⟨part, isCopy⟩
  rcases isCopy.exists_smaller_of_reachable cycle with ⟨smallerPart, isCopyToo, smaller⟩
  rw [isCopy.unique isCopyToo] at smaller
  exact Nat.lt_irrefl _ smaller

/-! ## Quoting copies -/

/-- The quoted form of a value is that of its copy.  On the way down, the collections on
the path have larger copies than the value, so that none of them is met again. -/
theorem IsCopy.quotedAt_eq {place : Place} {value : Value} {path : List Place}
    (copy : graph.IsCopy place value)
    (larger : ∀ outer ∈ path, ∃ whole, graph.IsCopy outer whole ∧ sizeOf value < sizeOf whole) :
    graph.quotedAt path place = value.quoted := by
  have layers := copy.layer_related_inner
  have fresh : place ∉ path := by
    intro member
    rcases larger place member with ⟨whole, isCopy, smaller⟩
    rw [copy.unique isCopy] at smaller
    exact Nat.lt_irrefl _ smaller
  cases collection : value.layer.isCollection with
  | false =>
      cases value with
      | scalar content =>
          generalize layer_eq : graph.layer place = layer at layers
          cases layers
          rw [quotedAt, layer_eq]
          rfl
      | _ => cases collection
  | true =>
      have isCollection : (graph.layer place).isCollection = true := by
        rw [← collection]
        generalize graph.layer place = layer, value.layer = layer' at layers
        cases layers <;> rfl
      have parts_eq : (graph.layer place).traverse (graph.quotedAt (place :: path)) =
          value.layer.traverse Value.quoted :=
        layers.traverse_eq fun {inner part} isPart =>
          have smaller := isPart.2
          isPart.1.quotedAt_eq <| List.forall_mem_cons.mpr ⟨⟨value, copy, smaller⟩,
            fun outer member => (larger outer member).imp fun _ whole =>
              ⟨whole.1, Nat.lt_trans smaller whole.2⟩⟩
      rw [quotedAt, dif_pos isCollection, dif_pos fresh, parts_eq,
        Value.quoted_eq_traverse collection]
termination_by sizeOf value

/-- A graph shows its values like their copies. -/
theorem view_agrees_copies (graph : Graph) : graph.view.Agrees Value.view graph.IsCopy where
  layer copy := copy.layer_related
  quoted copy := copy.quotedAt_eq (by simp)

/-! ## Making copies -/

/-- Where nothing leads back to itself, unfolding gives the copy.  On the way down, no
collection on the path can be reached again. -/
theorem isCopy_unfold {place : Place} (acyclic : graph.IsAcyclicFrom place) :
    graph.IsCopy place (graph.unfold place) := by
  refine ⟨fun place value => ∃ path, value = graph.unfoldAt path place ∧
    graph.IsAcyclicFrom place ∧
      ∀ outer ∈ path, ¬ Relation.ReflTransGen graph.Holds place outer,
    ⟨[], rfl, acyclic, by simp⟩, ?_⟩
  rintro place value ⟨path, rfl, acyclic, unreachable⟩
  have fresh : place ∉ path := fun member => unreachable place member .refl
  rw [unfoldAt, dif_pos fresh]
  split
  · rw [Value.layer_ofLayer]
    apply Layer.related_mapInner
    intro inner inside
    have holds : graph.Holds place inner := inside
    refine ⟨place :: path, rfl, fun other reachable => ?_, List.forall_mem_cons.mpr ⟨?_, ?_⟩⟩
    · exact acyclic other (reachable.head holds)
    · intro back
      exact acyclic place .refl (.head' holds back)
    · intro outer member reachable
      exact unreachable outer member (reachable.head holds)
  · next notCollection =>
      cases layer_eq : graph.layer place with
      | scalar content => exact .scalar
      | _ => simp [layer_eq, Layer.isCollection] at notCollection

/-- A value has a copy exactly if nothing that it leads to leads back to itself. -/
theorem isAcyclicFrom_iff_exists_isCopy (graph : Graph) (place : Place) :
    graph.IsAcyclicFrom place ↔ ∃! value, graph.IsCopy place value :=
  ⟨fun acyclic => ⟨graph.unfold place, isCopy_unfold acyclic,
    fun _ copy => copy.unique (isCopy_unfold acyclic)⟩, fun ⟨_, copy, _⟩ => copy.isAcyclicFrom⟩

/-- Nothing leads back to itself where every reference leads on in some order. -/
theorem isAcyclicFrom_of_lt {graph : Graph} (rank : Place → Nat)
    (lt : ∀ outer ∈ graph.places, ∀ inner ∈ (graph.layer outer).inner, rank outer < rank inner)
    (root : Place) : graph.IsAcyclicFrom root := by
  have lt_of_holds {outer inner : Place} (holds : graph.Holds outer inner) :
      rank outer < rank inner := by
    refine lt outer (mem_places_of_isCollection ?_) inner holds
    unfold Holds at holds
    cases layer_eq : graph.layer outer with
    | scalar content => simp [layer_eq, Layer.inner] at holds
    | _ => rfl
  have lt_of_reachable {outer inner : Place}
      (reachable : Relation.TransGen graph.Holds outer inner) : rank outer < rank inner := by
    induction reachable with
    | single holds => exact lt_of_holds holds
    | tail _ holds ih => exact Nat.lt_trans ih (lt_of_holds holds)
  intro place _ cycle
  exact Nat.lt_irrefl _ (lt_of_reachable cycle)

end Graph

end UsageContracts
