import Mathlib.Data.Finset.Card
import Mathlib.Logic.Function.Iterate
import UsageContracts.Proofs.Yaml.Merges
import UsageContracts.Yaml.Read

/-!
# Steps that are enough

The content of a map with the tag of a scalar is found step by step, and so are the
collections of a document.  The numbers of steps are only bounds: with more steps than
there are nodes the results are the same, and a content that is not found then is never
found.
-/

namespace UsageContracts.Yaml

variable {nodes : Array Node} {place : NodeId}

/-! ## Contents -/

/-- The node under the first key for the content of a map. -/
def contentNode? (nodes : Array Node) (place : NodeId) : Option NodeId :=
  match nodes[place]? with
  | some (.map _ entries) =>
      (entries.find? fun entry => hasTag nodes .value entry.1).map (·.2)
  | _ => none

/-- The node that is looked at after another one. -/
def contentStep (nodes : Array Node) (place : NodeId) : NodeId :=
  (contentNode? nodes place).getD place

theorem scalarContent_of_isSome (goesOn : (contentNode? nodes place).isSome = true)
    (steps : Nat) :
    scalarContent nodes (steps + 1) place =
      scalarContent nodes steps (contentStep nodes place) := by
  unfold contentStep
  unfold contentNode? at goesOn ⊢
  rw [scalarContent]
  split at goesOn
  · next found =>
      rw [found]
      dsimp only
      split
      · next entry_eq => simp [entry_eq]
      · next none => simp [none] at goesOn
  · cases goesOn

theorem scalarContent_of_isNone (ends : (contentNode? nodes place).isSome = false) (steps : Nat) :
    scalarContent nodes (steps + 1) place = scalarContent nodes 1 place ∧
      scalarContent nodes 1 place ≠ .error .endless := by
  unfold contentNode? at ends
  rw [scalarContent, scalarContent]
  split
  · exact ⟨rfl, by simp⟩
  · next found =>
      simp only [found, Option.isSome_map] at ends
      split
      · next entry_eq => simp [entry_eq] at ends
      · exact ⟨rfl, by simp⟩
  · exact ⟨rfl, by simp⟩

/-- No content is found within some steps exactly if every node met goes on to another. -/
theorem scalarContent_eq_endless_iff (steps : Nat) (place : NodeId) :
    scalarContent nodes steps place = .error .endless ↔
      ∀ passed < steps,
        (contentNode? nodes ((contentStep nodes)^[passed] place)).isSome = true := by
  induction steps generalizing place with
  | zero => simp [scalarContent]
  | succ steps ih =>
      cases goesOn : (contentNode? nodes place).isSome with
      | true =>
          rw [scalarContent_of_isSome goesOn, ih]
          constructor
          · rintro later (_ | passed) inRange
            · exact goesOn
            · exact later passed (by omega)
          · exact fun all passed inRange => all (passed + 1) (by omega)
      | false =>
          obtain ⟨same, notEndless⟩ := scalarContent_of_isNone goesOn steps
          rw [same]
          refine iff_of_false notEndless fun all => ?_
          have first := all 0 (by omega)
          rw [Function.iterate_zero_apply, goesOn] at first
          cases first

theorem lt_size_of_contentNode? (goesOn : (contentNode? nodes place).isSome = true) :
    place < nodes.size := by
  unfold contentNode? at goesOn
  split at goesOn
  · next found => exact (Array.getElem?_eq_some_iff.mp found).1
  · cases goesOn

/-- Whatever holds along a path up to a place where it has been before holds everywhere
on it. -/
theorem forall_iterate_of_again {α : Type} {step : α → α} {start : α} (good : α → Prop)
    {first second : Nat} (before : first < second)
    (again : step^[second] start = step^[first] start)
    (each : ∀ passed < second, good (step^[passed] start)) (passed : Nat) :
    good (step^[passed] start) := by
  induction passed using Nat.strong_induction_on with
  | _ passed ih =>
      by_cases early : passed < second
      · exact each passed early
      · have back : step^[passed] start = step^[passed - second + first] start := by
          rw [Function.iterate_add_apply, ← again, ← Function.iterate_add_apply,
            Nat.sub_add_cancel (by omega)]
        rw [back]
        exact ih _ (by omega)

/-- A path with a step more than there are nodes comes back to one of them, and never
ends. -/
theorem contentNode?_isSome_of_path
    (goesOn : ∀ passed < nodes.size + 1,
      (contentNode? nodes ((contentStep nodes)^[passed] place)).isSome = true) (passed : Nat) :
    (contentNode? nodes ((contentStep nodes)^[passed] place)).isSome = true := by
  have inNodes : Set.MapsTo (fun passed => (contentStep nodes)^[passed] place)
      (Finset.range (nodes.size + 1)) (Finset.range nodes.size) := by
    intro passed inRange
    simp only [Finset.coe_range, Set.mem_Iio] at inRange ⊢
    exact lt_size_of_contentNode? (goesOn passed inRange)
  obtain ⟨first, firstIn, second, secondIn, ne, again⟩ :=
    Finset.exists_ne_map_eq_of_card_lt_of_maps_to (by simp) inNodes
  rw [Finset.mem_range] at firstIn secondIn
  rcases Nat.lt_or_gt_of_ne ne with before | before
  · exact forall_iterate_of_again (fun place => (contentNode? nodes place).isSome = true) before
      again.symm (fun passed early => goesOn passed (by omega)) passed
  · exact forall_iterate_of_again (fun place => (contentNode? nodes place).isSome = true) before
      again (fun passed early => goesOn passed (by omega)) passed

theorem scalarContent_mono {steps : Nat}
    (found : scalarContent nodes steps place ≠ .error .endless) (more : Nat) :
    scalarContent nodes (steps + more) place = scalarContent nodes steps place := by
  induction steps generalizing place with
  | zero => exact (found rfl).elim
  | succ steps ih =>
      rw [Nat.add_right_comm]
      cases goesOn : (contentNode? nodes place).isSome with
      | true =>
          rw [scalarContent_of_isSome goesOn] at found ⊢
          rw [scalarContent_of_isSome goesOn, ih found]
      | false =>
          exact (scalarContent_of_isNone goesOn _).1.trans
            (scalarContent_of_isNone goesOn _).1.symm

/-- Whether a content is found, and which, is no matter of steps if there are more of them
than nodes: what is not found then is never found. -/
theorem scalarContent_eq {steps : Nat} (enough : nodes.size < steps) (place : NodeId) :
    scalarContent nodes steps place = scalarContent nodes (nodes.size + 1) place := by
  by_cases endless : scalarContent nodes (nodes.size + 1) place = .error .endless
  · rw [endless, scalarContent_eq_endless_iff]
    rw [scalarContent_eq_endless_iff] at endless
    exact fun passed _ => contentNode?_isSome_of_path endless passed
  · have same := scalarContent_mono endless (steps - (nodes.size + 1))
    rwa [Nat.add_sub_cancel' enough] at same

/-! ## Settling -/

namespace ValueTable

variable {table : ValueTable}

/-- Whether there is a place for the value of every node, and for no other. -/
def IsFull (table : ValueTable) : Prop :=
  table.values.size = table.nodes.size

theorem isFull_record (full : table.IsFull) (id : NodeId) : (table.record id).IsFull := by
  rw [IsFull, record, Array.size_setIfInBounds]
  exact full

theorem isFull_foldl_record (full : table.IsFull) (ids : List NodeId) :
    (ids.foldl record table).IsFull ∧ (ids.foldl record table).nodes = table.nodes := by
  induction ids generalizing table with
  | nil => exact ⟨full, rfl⟩
  | cons first ids ih => exact ih (isFull_record full first)

theorem lt_size_of_value (full : table.IsFull) {id : NodeId}
    (value_eq : table.value id = .ok .collection) : id < table.nodes.size := by
  unfold value at value_eq
  split at value_eq
  · next recorded => exact full ▸ (Array.getElem?_eq_some_iff.mp recorded).1
  · unfold nodeValue at value_eq
    split at value_eq
    · cases value_eq
    · next found => exact (Array.getElem?_eq_some_iff.mp found).1

theorem lt_size_of_checkPart (full : table.IsFull) {id part : NodeId} {parts : List NodeId}
    (parts_eq : table.checkPart id = .ok parts) (member : part ∈ parts) :
    part < table.nodes.size := by
  rw [checkPart, Outcome.bind_eq_ok_iff] at parts_eq
  obtain ⟨value, value_eq, parts_eq⟩ := parts_eq
  cases value with
  | scalar content isNanLiteral =>
      cases parts_eq
      cases member
  | collection =>
      cases parts_eq
      rw [List.mem_singleton.mp member]
      exact lt_size_of_value full value_eq

theorem nodup_of_checkPart {id : NodeId} {parts : List NodeId}
    (parts_eq : table.checkPart id = .ok parts) : parts.Nodup := by
  rw [checkPart, Outcome.bind_eq_ok_iff] at parts_eq
  obtain ⟨value, -, parts_eq⟩ := parts_eq
  cases value <;> cases parts_eq <;> simp

theorem lt_size_of_mapM {α : Type} {check : α → Except Fault (List NodeId)} {items : List α}
    (each : ∀ item parts, check item = .ok parts → ∀ part ∈ parts, part < table.nodes.size)
    {parts : List NodeId} {part : NodeId}
    (parts_eq : (return (← items.mapM check).flatten) = Except.ok (ε := Fault) parts)
    (member : part ∈ parts) : part < table.nodes.size := by
  rw [Outcome.bind_eq_ok_iff] at parts_eq
  obtain ⟨results, results_eq, parts_eq⟩ := parts_eq
  cases parts_eq
  obtain ⟨result, resultIn, member⟩ := List.mem_flatten.mp member
  obtain ⟨item, item_eq⟩ := Outcome.exists_of_mem_mapM results_eq resultIn
  exact each item result item_eq part member

theorem lt_size_of_checkParts (full : table.IsFull) {id part : NodeId} {parts : List NodeId}
    (parts_eq : table.checkParts id = .ok parts) (member : part ∈ parts) :
    part < table.nodes.size := by
  have ofEntry : ∀ entry parts, table.checkEntry entry = .ok parts → ∀ part ∈ parts,
      part < table.nodes.size := by
    intro entry parts entry_eq part member
    rw [checkEntry, Outcome.bind_eq_ok_iff] at entry_eq
    obtain ⟨_, -, parts_eq⟩ := entry_eq
    exact lt_size_of_checkPart full parts_eq member
  have ofPair : ∀ item parts, table.checkPair item = .ok parts → ∀ part ∈ parts,
      part < table.nodes.size := by
    intro item parts item_eq part member
    unfold checkPair at item_eq
    split at item_eq
    · simp only [Outcome.bind_eq_ok_iff] at item_eq
      obtain ⟨keyParts, key_eq, valueParts, value_eq, parts_eq⟩ := item_eq
      cases parts_eq
      rcases List.mem_append.mp member with member | member
      · exact lt_size_of_checkPart full key_eq member
      · exact lt_size_of_checkPart full value_eq member
    · cases item_eq
  unfold checkParts at parts_eq
  split at parts_eq
  · exact lt_size_of_mapM (fun item parts item_eq part => lt_size_of_checkPart full item_eq)
      parts_eq member
  · exact lt_size_of_mapM ofEntry parts_eq member
  · exact lt_size_of_mapM ofEntry parts_eq member
  · exact lt_size_of_mapM ofPair parts_eq member
  · exact lt_size_of_mapM ofPair parts_eq member
  · cases parts_eq

theorem resolve_keeps (full : table.IsFull) {id : NodeId} {last : ValueTable}
    (last_eq : table.resolve id = .ok last) :
    last.IsFull ∧ last.nodes.size = table.nodes.size := by
  have resolved : (do return { table with nodes := ← resolveMap table.nodes id }) =
      Except.ok (ε := Fault) last → last.IsFull ∧ last.nodes.size = table.nodes.size := by
    intro last_eq
    rw [Outcome.bind_eq_ok_iff] at last_eq
    obtain ⟨nodes, nodes_eq, last_eq⟩ := last_eq
    cases last_eq
    have size_eq := (resolves_of_resolveMap nodes_eq).same.size_eq
    exact ⟨full.trans size_eq.symm, size_eq⟩
  unfold resolve at last_eq
  split at last_eq
  · exact resolved last_eq
  · exact resolved last_eq
  · cases last_eq
    exact ⟨full, rfl⟩

/-- The number of nodes that have not been seen. -/
def unseen (table : ValueTable) (seen : List NodeId) : Nat :=
  (Finset.range table.nodes.size \ seen.toFinset).card

theorem unseen_append (table : ValueTable) (seen : List NodeId) {fresh : List NodeId}
    (nodup : fresh.Nodup) (inNodes : ∀ id ∈ fresh, id < table.nodes.size)
    (isNew : ∀ id ∈ fresh, id ∉ seen) :
    table.unseen (fresh ++ seen) + fresh.length = table.unseen seen := by
  have included : fresh.toFinset ⊆ Finset.range table.nodes.size \ seen.toFinset := by
    intro id member
    rw [List.mem_toFinset] at member
    simpa using ⟨inNodes id member, isNew id member⟩
  have counted := Finset.card_sdiff_add_card_eq_card included
  rw [List.toFinset_card_of_nodup nodup, sdiff_sdiff_left] at counted
  rw [unseen, unseen, List.toFinset_append, Finset.union_comm]
  exact counted

theorem nodup_eraseDups (ids : List NodeId) : ids.eraseDups.Nodup := by
  induction size_eq : ids.length using Nat.strong_induction_on generalizing ids with
  | _ size ih =>
      cases ids with
      | nil => simp
      | cons first ids =>
          have isShorter : (ids.filter fun id => !id == first).length < size := by
            have filtered := List.length_filter_le (fun id => !id == first) ids
            rw [List.length_cons] at size_eq
            omega
          have rest := ih _ isShorter (ids.filter fun id => !id == first) rfl
          rw [List.eraseDups_cons, List.nodup_cons]
          exact ⟨by simp, rest⟩

/-- As many steps as there are nodes that have not been seen or wait are enough to settle
them. -/
theorem settle_alike {steps : Nat} {seen queue : List NodeId} (full : table.IsFull)
    (few : table.unseen seen + queue.length < steps) (more : Nat) :
    FareAlike id (fun _ => True) (table.settle steps seen queue)
      (table.settle (steps + more) seen queue) := by
  induction steps generalizing table seen queue with
  | zero => omega
  | succ steps ih =>
      rw [Nat.add_right_comm]
      cases queue with
      | nil => exact .passed trivial
      | cons first queue =>
          rw [settle, settle]
          refine (FareAlike.refl (table.resolve first)).bind fun last last_eq => ?_
          obtain ⟨lastFull, size_eq⟩ := resolve_keeps full last_eq
          refine (FareAlike.refl (last.checkParts first)).bind fun parts parts_eq => ?_
          obtain ⟨nextFull, nodes_eq⟩ := isFull_foldl_record lastFull (last.partsAt first)
          refine ih nextFull ?_
          have isCounted := unseen_append table seen
            ((nodup_eraseDups parts).filter (!seen.contains ·))
            (fun id member => size_eq ▸ lt_size_of_checkParts lastFull parts_eq
              (List.mem_eraseDups.mp (List.mem_filter.mp member).1))
            (fun id member => by simpa using (List.mem_filter.mp member).2)
          simp only [List.length_cons, List.length_append, unseen, nodes_eq, size_eq]
            at few isCounted ⊢
          omega

theorem settle_eq {steps : Nat} {queue : List NodeId} (full : table.IsFull)
    (nodup : queue.Nodup) (inNodes : ∀ id ∈ queue, id < table.nodes.size)
    (enough : table.nodes.size < steps) :
    table.settle steps queue queue = table.settle (table.nodes.size + 1) queue queue := by
  have counted := unseen_append table [] nodup inNodes (by simp)
  have all : table.unseen [] = table.nodes.size := by simp [unseen]
  have few : table.unseen queue + queue.length < table.nodes.size + 1 := by
    rw [List.append_nil] at counted
    omega
  have alike := settle_alike full few (steps - (table.nodes.size + 1))
  rw [Nat.add_sub_cancel' enough] at alike
  rw [alike.eq_map]
  cases table.settle (table.nodes.size + 1) queue queue <;> rfl

end ValueTable

/-- The value of a document is no matter of steps if there are more of them than nodes. -/
theorem NodeDocument.value_eq (document : NodeDocument) {steps : Nat}
    (enough : document.nodes.size < steps) :
    document.value = do
      let table := ValueTable.ofNodes document.nodes
      let queue ← table.checkPart document.root
      let table ← (table.record document.root).settle steps queue queue
      return {
        graph := { cells := (Array.range table.nodes.size).map table.cellOf }
        root := .cell document.root } := by
  have full : (ValueTable.ofNodes document.nodes).IsFull := Array.size_replicate
  rw [value]
  dsimp only
  cases queue_eq : (ValueTable.ofNodes document.nodes).checkPart document.root with
  | error fault => rfl
  | ok queue =>
      have inNodes : ∀ id ∈ queue, id < document.nodes.size := fun id member =>
        ValueTable.lt_size_of_checkPart full queue_eq member
      have nodup : queue.Nodup := ValueTable.nodup_of_checkPart queue_eq
      have settle_eq := ValueTable.settle_eq (ValueTable.isFull_record full document.root) nodup
        inNodes enough
      rw [Outcome.ok_bind, Outcome.ok_bind, settle_eq]
      rfl

end UsageContracts.Yaml
