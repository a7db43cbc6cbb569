import UsageContracts.Proofs.Yaml.LineEnds.Texts
import UsageContracts.Yaml.Merge

/-!
# Merge keys that are resolved

Resolving the merge keys of a map leaves none of them in it.  A merge key less is left
after each step, whatever leads back to the map, so that with more steps than there are
merge keys the result is the same.
-/

namespace UsageContracts.Yaml

variable {nodes other last : Array Node} {place : NodeId}

/-! ## Readers that fare alike -/

namespace FareAlike

theorem refl {α : Type} (outcome : Except Fault α) :
    FareAlike id (fun value => outcome = .ok value) outcome outcome := by
  cases outcome with
  | error fault => exact .failed fault
  | ok value => exact .passed rfl

theorem foldlM {α σ : Type} {step otherStep : σ → α → Except Fault σ} (kept : σ → Prop)
    (each : ∀ state item, kept state → FareAlike id kept (step state item) (otherStep state item))
    {state : σ} (start : kept state) (items : List α) :
    FareAlike id kept (items.foldlM step state) (items.foldlM otherStep state) := by
  induction items generalizing state with
  | nil => exact .passed start
  | cons item items ih =>
      rw [List.foldlM_cons, List.foldlM_cons]
      exact (each state item start).bind fun next kept => ih kept

end FareAlike

/-! ## Entries -/

theorem isMapAt_of_entriesAt_ne_nil (notEmpty : entriesAt nodes place ≠ []) :
    isMapAt nodes place = true := by
  unfold entriesAt at notEmpty
  unfold isMapAt
  split at notEmpty
  · rfl
  · exact (notEmpty rfl).elim

theorem lt_size_of_isMapAt (isMap : isMapAt nodes place = true) : place < nodes.size := by
  unfold isMapAt at isMap
  split at isMap
  · next found => exact (Array.getElem?_eq_some_iff.mp found).1
  · cases isMap

theorem setEntries_eq_self (notMap : isMapAt nodes place = false)
    (entries : List (NodeId × NodeId)) : setEntries nodes place entries = nodes := by
  unfold isMapAt at notMap
  unfold setEntries
  split
  · next found => simp [found] at notMap
  · rfl

theorem entriesAt_setEntries (isMap : isMapAt nodes place = true)
    (entries : List (NodeId × NodeId)) (key : NodeId) :
    entriesAt (setEntries nodes place entries) key =
      if key = place then entries else entriesAt nodes key := by
  have inRange := lt_size_of_isMapAt isMap
  unfold isMapAt at isMap
  unfold setEntries entriesAt
  split at isMap
  · next found =>
      simp only [Array.getElem?_setIfInBounds, inRange, if_true]
      by_cases same : key = place
      · simp [same]
      · simp [same, Ne.symm same]
  · cases isMap

/-! ## Merge keys -/

/-- Whether nodes are as many as others, and the same of them are merge keys. -/
structure SameMerges (nodes other : Array Node) : Prop where
  size_eq : other.size = nodes.size
  isMerge_eq : hasTag other .merge = hasTag nodes .merge

namespace SameMerges

theorem refl (nodes : Array Node) : SameMerges nodes nodes :=
  ⟨rfl, rfl⟩

theorem trans (first : SameMerges nodes other) (second : SameMerges other last) :
    SameMerges nodes last :=
  ⟨second.size_eq.trans first.size_eq, second.isMerge_eq.trans first.isMerge_eq⟩

theorem mergesIn_eq (same : SameMerges nodes other) (entries : List (NodeId × NodeId)) :
    mergesIn other entries = mergesIn nodes entries := by
  unfold mergesIn
  rw [same.isMerge_eq]

end SameMerges

theorem setIfInBounds_sameMerges {node new : Node} (found : nodes[place]? = some node)
    (isMerge_eq : (new.tag == .merge) = (node.tag == .merge)) :
    SameMerges nodes (nodes.setIfInBounds place new) where
  size_eq := Array.size_setIfInBounds
  isMerge_eq := by
    funext key
    unfold hasTag
    rw [Array.getElem?_setIfInBounds]
    by_cases same : place = key
    · subst same
      rw [if_pos rfl, if_pos (Array.getElem?_eq_some_iff.mp found).1, found]
      exact isMerge_eq
    · simp [same]

theorem setEntries_sameMerges (nodes : Array Node) (place : NodeId)
    (entries : List (NodeId × NodeId)) : SameMerges nodes (setEntries nodes place entries) := by
  unfold setEntries
  split
  · next tag old found => exact setIfInBounds_sameMerges found rfl
  · exact .refl nodes

/-- Making texts of keys changes neither merge keys nor entries. -/
theorem plainKeys_sameMerges (nodes : Array Node) (entries : List (NodeId × NodeId)) :
    SameMerges nodes (plainKeys nodes entries) ∧
      entriesAt (plainKeys nodes entries) = entriesAt nodes := by
  unfold plainKeys
  induction entries generalizing nodes with
  | nil => exact ⟨.refl nodes, rfl⟩
  | cons entry entries ih =>
      rcases entry with ⟨key, value⟩
      rw [List.foldl_cons]
      dsimp only
      split
      · next node found =>
          split
          · next isValue =>
              obtain ⟨sameLater, entriesLater⟩ := ih (nodes.setIfInBounds key (node.withTag .text))
              refine ⟨.trans (setIfInBounds_sameMerges found ?_) sameLater, entriesLater.trans ?_⟩
              · rw [isValue]
                cases node <;> rfl
              · funext other
                unfold entriesAt
                rw [Array.getElem?_setIfInBounds]
                by_cases same : key = other
                · subst same
                  rw [if_pos rfl, if_pos (Array.getElem?_eq_some_iff.mp found).1, found]
                  cases node <;> rfl
                · rw [if_neg same]
          · exact ih nodes
      · exact ih nodes

/-! ## Counting merge keys -/

theorem foldl_add_congr {count otherCount : Nat → Nat} {size : Nat}
    (same : ∀ key < size, count key = otherCount key) :
    (List.range size).foldl (fun sum key => sum + count key) 0 =
      (List.range size).foldl (fun sum key => sum + otherCount key) 0 := by
  induction size with
  | zero => rfl
  | succ size ih =>
      rw [List.range_succ, List.foldl_append, List.foldl_append,
        ih fun key inRange => same key (by omega)]
      simp only [List.foldl_cons, List.foldl_nil, same size (by omega)]

/-- A sum with one summand replaced. -/
theorem foldl_add_replace {count otherCount : Nat → Nat} {size place : Nat}
    (inRange : place < size) (same : ∀ key ≠ place, count key = otherCount key) :
    (List.range size).foldl (fun sum key => sum + count key) 0 + otherCount place =
      (List.range size).foldl (fun sum key => sum + otherCount key) 0 + count place := by
  induction size with
  | zero => omega
  | succ size ih =>
      simp only [List.range_succ, List.foldl_append, List.foldl_cons, List.foldl_nil]
      by_cases isLast : place = size
      · subst isLast
        rw [foldl_add_congr fun key before => same key (by omega)]
        omega
      · rw [same size (by omega)]
        have before := ih (by omega)
        omega

theorem mergesIn_append (nodes : Array Node) (first second : List (NodeId × NodeId)) :
    mergesIn nodes (first ++ second) = mergesIn nodes first + mergesIn nodes second :=
  List.countP_append

theorem mergeCount_setEntries (isMap : isMapAt nodes place = true)
    (entries : List (NodeId × NodeId)) :
    mergeCount (setEntries nodes place entries) + mergesIn nodes (entriesAt nodes place) =
      mergeCount nodes + mergesIn nodes entries := by
  have same := setEntries_sameMerges nodes place entries
  have others : ∀ key ≠ place, mergesIn nodes (entriesAt (setEntries nodes place entries) key) =
      mergesIn nodes (entriesAt nodes key) := by
    intro key isOther
    rw [entriesAt_setEntries isMap, if_neg isOther]
  have replaced := foldl_add_replace (lt_size_of_isMapAt isMap) others
  rw [entriesAt_setEntries isMap, if_pos rfl] at replaced
  simp only [mergeCount, same.size_eq, same.mergesIn_eq]
  exact replaced

/-- Entries without merge keys add none. -/
theorem mergeCount_setEntries_le (place : NodeId) {entries : List (NodeId × NodeId)}
    (none : mergesIn nodes entries = 0) :
    mergeCount (setEntries nodes place entries) ≤ mergeCount nodes := by
  cases isMap : isMapAt nodes place with
  | false => rw [setEntries_eq_self isMap]
  | true =>
      have replaced := mergeCount_setEntries isMap entries
      omega

theorem mergesIn_setEntries {entries : List (NodeId × NodeId)} (none : mergesIn nodes entries = 0)
    (before : mergesIn nodes (entriesAt nodes place) = 0) :
    mergesIn (setEntries nodes place entries) (entriesAt (setEntries nodes place entries) place) =
      0 := by
  rw [(setEntries_sameMerges nodes place entries).mergesIn_eq]
  cases isMap : isMapAt nodes place with
  | false => rwa [setEntries_eq_self isMap]
  | true => rwa [entriesAt_setEntries isMap, if_pos rfl]

theorem mergeCount_plainKeys (entries : List (NodeId × NodeId)) :
    mergeCount (plainKeys nodes entries) = mergeCount nodes := by
  obtain ⟨same, entries_eq⟩ := plainKeys_sameMerges nodes entries
  simp only [mergeCount, same.size_eq, same.mergesIn_eq, entries_eq]

theorem countP_eraseP {α : Type} {isFound : α → Bool} {items : List α} {item : α}
    (found : items.find? isFound = some item) :
    (items.eraseP isFound).countP isFound + 1 = items.countP isFound := by
  induction items with
  | nil => cases found
  | cons first items ih =>
      cases isFirst : isFound first with
      | true => rw [List.eraseP_cons_of_pos isFirst, List.countP_cons_of_pos isFirst]
      | false =>
          have notFirst : ¬ isFound first = true := by simp [isFirst]
          rw [List.find?_cons_of_neg notFirst] at found
          rw [List.eraseP_cons_of_neg notFirst, List.countP_cons_of_neg notFirst,
            List.countP_cons_of_neg notFirst, ih found]

/-- A merge key less is left when one of a map is removed. -/
theorem mergeCount_removed_lt {entry : NodeId × NodeId}
    (found : (entriesAt nodes place).find? (fun entry => hasTag nodes .merge entry.1) =
      some entry) :
    mergeCount (setEntries nodes place ((entriesAt nodes place).eraseP
      fun entry => hasTag nodes .merge entry.1)) < mergeCount nodes := by
  have isMap : isMapAt nodes place = true := by
    apply isMapAt_of_entriesAt_ne_nil
    intro isEmpty
    rw [isEmpty] at found
    cases found
  have replaced := mergeCount_setEntries isMap ((entriesAt nodes place).eraseP
    fun entry => hasTag nodes .merge entry.1)
  have erased := countP_eraseP found
  simp only [mergesIn] at replaced
  omega

/-! ## Resolving -/

/-- What resolving the merge keys of a map comes to: there are none in the map, and no
more than before in the others. -/
structure Resolves (place : NodeId) (nodes last : Array Node) : Prop where
  same : SameMerges nodes last
  count_le : mergeCount last ≤ mergeCount nodes
  resolved : mergesIn last (entriesAt last place) = 0

/-- What is kept while the maps under a merge key are taken over. -/
structure TakesOver (nodes : Array Node) (state : Array Node × List (NodeId × NodeId)) :
    Prop where
  same : SameMerges nodes state.1
  count_le : mergeCount state.1 ≤ mergeCount nodes
  inherited : mergesIn nodes state.2 = 0

/-- More steps than there are merge keys are enough to resolve those of a map. -/
theorem resolveMerges_alike {steps : Nat} (few : mergeCount nodes < steps) (more : Nat)
    (place : NodeId) :
    FareAlike id (Resolves place nodes) (resolveMerges steps nodes place)
      (resolveMerges (steps + more) nodes place) := by
  induction steps generalizing nodes place with
  | zero => omega
  | succ steps ih =>
      rw [Nat.add_right_comm]
      unfold resolveMerges
      dsimp only
      cases found : (entriesAt nodes place).find? fun entry => hasTag nodes .merge entry.1 with
      | none =>
          obtain ⟨same, entries_eq⟩ := plainKeys_sameMerges nodes (entriesAt nodes place)
          refine .passed ⟨same, (mergeCount_plainKeys _).le, ?_⟩
          rw [same.mergesIn_eq, entries_eq]
          exact List.countP_eq_zero.mpr (List.find?_eq_none.mp found)
      | some entry =>
          rcases entry with ⟨key, merged⟩
          dsimp only
          refine (FareAlike.refl (mergedMaps nodes merged)).bind fun maps _ => ?_
          have fewer := mergeCount_removed_lt found
          have sameStart := setEntries_sameMerges nodes place ((entriesAt nodes place).eraseP
            fun entry => hasTag nodes .merge entry.1)
          generalize setEntries nodes place _ = start at fewer sameStart
          refine (FareAlike.foldlM (TakesOver start) ?_ ⟨.refl start, le_rfl, rfl⟩ maps).bind ?_
          · rintro ⟨state, inherited⟩ map ⟨same, count_le, inherited_eq⟩
            have fewState : mergeCount state < steps := by
              dsimp only at count_le
              omega
            refine (ih fewState map).bind fun next resolves => .passed ?_
            refine ⟨same.trans resolves.same, resolves.count_le.trans count_le, ?_⟩
            rw [mergesIn_append, inherited_eq, ← (same.trans resolves.same).mergesIn_eq,
              resolves.resolved]
          · rintro ⟨state, inherited⟩ ⟨same, count_le, inherited_eq⟩
            have fewState : mergeCount state < steps := by
              dsimp only at count_le
              omega
            refine (ih fewState place).bind fun next resolves => .passed ?_
            have sameNext := same.trans resolves.same
            have noMerges : mergesIn next (inherited ++ entriesAt next place) = 0 := by
              rw [mergesIn_append, resolves.resolved, sameNext.mergesIn_eq]
              exact inherited_eq
            refine ⟨sameStart.trans (sameNext.trans (setEntries_sameMerges next place _)), ?_,
              mergesIn_setEntries noMerges resolves.resolved⟩
            calc mergeCount (setEntries next place (inherited ++ entriesAt next place))
                ≤ mergeCount next := mergeCount_setEntries_le place noMerges
              _ ≤ mergeCount state := resolves.count_le
              _ ≤ mergeCount start := count_le
              _ ≤ mergeCount nodes := fewer.le

theorem resolves_of_resolveMap (last_eq : resolveMap nodes place = .ok last) :
    Resolves place nodes last := by
  have alike := resolveMerges_alike (Nat.lt_succ_self (mergeCount nodes)) 0 place
  rw [← resolveMap, last_eq] at alike
  exact alike.isGood

/-- Resolving a map is no matter of steps if there are more of them than merge keys. -/
theorem resolveMerges_eq_resolveMap {steps : Nat} (enough : mergeCount nodes < steps)
    (place : NodeId) : resolveMerges steps nodes place = resolveMap nodes place := by
  have alike := resolveMerges_alike (Nat.lt_succ_self (mergeCount nodes))
    (steps - (mergeCount nodes + 1)) place
  rw [Nat.add_sub_cancel' enough] at alike
  rw [alike.eq_map, resolveMap]
  cases resolveMerges (mergeCount nodes + 1) nodes place <;> rfl

/-- No merge key is left in a map that is resolved. -/
theorem not_isMerge_of_resolveMap (last_eq : resolveMap nodes place = .ok last) :
    ∀ entry ∈ entriesAt last place, hasTag last .merge entry.1 = false := by
  intro entry member
  have none := List.countP_eq_zero.mp (resolves_of_resolveMap last_eq).resolved entry member
  simpa using none

end UsageContracts.Yaml
