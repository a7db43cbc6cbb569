import UsageContracts.Proofs.Document.Agreement
import UsageContracts.Proofs.Document.Lookup
import UsageContracts.Proofs.Outcome
import UsageContracts.Proofs.Yaml.Nodes
import UsageContracts.Yaml.Read

/-!
# The document values of values between brackets

In the table of a value that is written between brackets every collection stands
before its parts, all keys are texts and no key is repeated.  Settling leaves the
nodes of such a table as they are and records their values, and the graph of the
table shows the document value.
-/

namespace UsageContracts.Yaml

namespace Flow

/-! ## Values in tables -/

mutual

/-- Whether the node at a place of a table holds a value, with the parts of every
collection after the collection. -/
def IsHeldAt (nodes : Array Node) (id : NodeId) : Flow → Prop
  | .scalar content isPlain =>
      nodes[id]? = some (.scalar (scalarTag content isPlain) content) ∧
        HasValue content isPlain
  | .list items => ∃ ids, nodes[id]? = some (.list .list ids) ∧ AreHeldAt nodes id ids items
  | .map members => ∃ entries, nodes[id]? = some (.map .map entries) ∧
      (members.map (·.1)).Nodup ∧ MembersAreHeldAt nodes id entries members
termination_by structural flow => flow

/-- Whether nodes after the given place hold the items of a list. -/
def AreHeldAt (nodes : Array Node) (owner : NodeId) : List NodeId → List Flow → Prop
  | [], [] => True
  | id :: ids, item :: items =>
      (owner < id ∧ IsHeldAt nodes id item) ∧ AreHeldAt nodes owner ids items
  | _, _ => False
termination_by structural _ items => items

/-- Whether nodes after the given place hold the members of a map. -/
def MembersAreHeldAt (nodes : Array Node) (owner : NodeId) :
    List (NodeId × NodeId) → List (Text × Flow) → Prop
  | [], [] => True
  | entry :: entries, member :: members =>
      MemberIsHeldAt nodes owner entry member ∧ MembersAreHeldAt nodes owner entries members
  | _, _ => False
termination_by structural _ members => members

/-- Whether nodes after the given place hold the name of a member and its value. -/
def MemberIsHeldAt (nodes : Array Node) (owner : NodeId) (entry : NodeId × NodeId) :
    Text × Flow → Prop
  | (name, flow) => nodes[entry.1]? = some (.scalar .text name) ∧
      owner < entry.2 ∧ IsHeldAt nodes entry.2 flow
termination_by structural member => member

end

variable {nodes : Array Node}

mutual

/-- The nodes of a sound value hold it. -/
theorem isHeldAt_of_nodesFrom : ∀ (flow : Flow), flow.IsSound →
    ∀ {before after : List Node}, nodes.toList = before ++ (flow.nodesFrom before.length ++ after) →
      flow.IsHeldAt nodes before.length
  | .scalar content isPlain, sound, before, after, nodes_eq => by
      refine ⟨?_, sound⟩
      rw [← Array.getElem?_toList, nodes_eq]
      simp [nodesFrom]
  | .list items, sound, before, after, nodes_eq => by
      let node : Node := .list .list (itemIds (before.length + 1) items)
      have parts_eq : nodes.toList = (before ++ [node]) ++
          (itemNodes (before ++ [node]).length items ++ after) := by
        simpa [nodesFrom, node] using nodes_eq
      refine ⟨itemIds (before.length + 1) items, ?_, ?_⟩
      · rw [← Array.getElem?_toList, nodes_eq]
        simp [nodesFrom]
      · simpa using areHeldAt_of_itemNodes items sound before.length (by simp) parts_eq
  | .map members, sound, before, after, nodes_eq => by
      let node : Node := .map .map (memberIds (before.length + 1) members)
      have parts_eq : nodes.toList = (before ++ [node]) ++
          (memberNodes (before ++ [node]).length members ++ after) := by
        simpa [nodesFrom, node] using nodes_eq
      refine ⟨memberIds (before.length + 1) members, ?_, sound.1, ?_⟩
      · rw [← Array.getElem?_toList, nodes_eq]
        simp [nodesFrom]
      · simpa using
          membersAreHeldAt_of_memberNodes members sound.2 before.length (by simp) parts_eq

theorem areHeldAt_of_itemNodes : ∀ (items : List Flow), AreSound items →
    ∀ (owner : NodeId) {before after : List Node}, owner < before.length →
      nodes.toList = before ++ (itemNodes before.length items ++ after) →
      AreHeldAt nodes owner (itemIds before.length items) items
  | [], _, _, _, _, _, _ => trivial
  | item :: items, sound, owner, before, after, earlier, nodes_eq => by
      let itemTable := item.nodesFrom before.length
      have item_eq : nodes.toList = before ++
          (itemTable ++ (itemNodes (before.length + itemTable.length) items ++ after)) := by
        simpa [itemNodes] using nodes_eq
      have items_eq : nodes.toList = (before ++ itemTable) ++
          (itemNodes (before ++ itemTable).length items ++ after) := by
        simpa using item_eq
      refine ⟨⟨earlier, isHeldAt_of_nodesFrom item sound.1 item_eq⟩, ?_⟩
      have held := areHeldAt_of_itemNodes items sound.2 owner
        (Nat.lt_of_lt_of_le earlier (by simp)) items_eq
      simpa using held

theorem membersAreHeldAt_of_memberNodes : ∀ (members : List (Text × Flow)),
    MembersAreSound members → ∀ (owner : NodeId) {before after : List Node},
      owner < before.length →
      nodes.toList = before ++ (memberNodes before.length members ++ after) →
      MembersAreHeldAt nodes owner (memberIds before.length members) members
  | [], _, _, _, _, _, _ => trivial
  | (name, flow) :: members, sound, owner, before, after, earlier, nodes_eq => by
      let memberTable := nodesOfMember before.length (name, flow)
      have member_eq : nodes.toList = before ++
          (memberTable ++ (memberNodes (before.length + memberTable.length) members ++ after)) := by
        simpa [memberNodes] using nodes_eq
      have value_eq : nodes.toList = (before ++ [Node.scalar .text name]) ++
          (flow.nodesFrom (before ++ [Node.scalar .text name]).length ++
            (memberNodes (before.length + memberTable.length) members ++ after)) := by
        simpa [memberTable, nodesOfMember] using member_eq
      have members_eq : nodes.toList = (before ++ memberTable) ++
          (memberNodes (before ++ memberTable).length members ++ after) := by
        simpa using member_eq
      refine ⟨⟨?_, Nat.lt_succ_of_lt earlier, ?_⟩, ?_⟩
      · rw [← Array.getElem?_toList, member_eq]
        simp [memberTable, nodesOfMember]
      · simpa using isHeldAt_of_nodesFrom flow sound.1 value_eq
      · have held := membersAreHeldAt_of_memberNodes members sound.2 owner
          (Nat.lt_of_lt_of_le earlier (by simp)) members_eq
        simpa using held

end

variable {id owner : NodeId}

theorem AreHeldAt.exists_isHeldAt : ∀ {ids : List NodeId} {items : List Flow},
    AreHeldAt nodes owner ids items → id ∈ ids → ∃ item : Flow, item.IsHeldAt nodes id
  | first :: ids, item :: items, held, member => by
      rcases List.mem_cons.mp member with rfl | later
      · exact ⟨item, held.1.2⟩
      · exact held.2.exists_isHeldAt later

theorem MembersAreHeldAt.exists_memberIsHeldAt : ∀ {entries : List (NodeId × NodeId)}
    {members : List (Text × Flow)} {entry : NodeId × NodeId},
    MembersAreHeldAt nodes owner entries members → entry ∈ entries →
      ∃ member ∈ members, MemberIsHeldAt nodes owner entry member
  | first :: entries, member :: members, entry, held, inEntries => by
      rcases List.mem_cons.mp inEntries with rfl | later
      · exact ⟨member, by simp, held.1⟩
      · rcases held.2.exists_memberIsHeldAt later with ⟨other, inMembers, otherHeld⟩
        exact ⟨other, by simp [inMembers], otherHeld⟩

/-- The keys of a map are texts. -/
theorem MembersAreHeldAt.exists_key {entries : List (NodeId × NodeId)}
    {members : List (Text × Flow)} (held : MembersAreHeldAt nodes owner entries members) :
    ∀ entry ∈ entries, ∃ name, nodes[entry.1]? = some (.scalar .text name) := by
  intro entry inEntries
  rcases held.exists_memberIsHeldAt inEntries with ⟨⟨name, flow⟩, -, memberHeld⟩
  exact ⟨name, memberHeld.1⟩

end Flow

/-! ## Values of nodes -/

variable {nodes : Array Node} {id : NodeId}

theorem scalarNodeValue_scalar {tag : Tag} {content : Text}
    (found : nodes[id]? = some (.scalar tag content)) :
    scalarNodeValue nodes id (.scalar tag content) = (scalarValue tag content >>= fun value =>
      .ok (.scalar value (tag == .float && isNanForm content))) := by
  have content_eq : scalarContent nodes (nodes.size + 1) id = .ok content := by
    rw [scalarContent, found]
  rw [scalarNodeValue, content_eq, Outcome.ok_bind]
  simp only [Node.tag, Outcome.pure_eq_ok]

theorem nodeValue_scalar {tag : Tag} {content : Text} {value : Scalar}
    (found : nodes[id]? = some (.scalar tag content))
    (value_eq : scalarValue tag content = .ok value) :
    nodeValue nodes id = .ok (.scalar value (tag == .float && isNanForm content)) := by
  have isScalar : tag.isCollection = false ∧ tag.isScalar = true := by
    cases tag <;> first | exact ⟨rfl, rfl⟩ | cases value_eq
  rw [nodeValue, found]
  simp only [Node.tag, isScalar, Bool.false_eq_true, if_false, if_true,
    scalarNodeValue_scalar found, value_eq, Outcome.ok_bind]

theorem nodeValue_text {name : Text} (found : nodes[id]? = some (.scalar .text name)) :
    nodeValue nodes id = .ok (.scalar (.text name) false) :=
  nodeValue_scalar found rfl

namespace ValueTable

/-- Whether a table has the given nodes, and has recorded no other values than theirs. -/
structure Shows (table : ValueTable) (nodes : Array Node) : Prop where
  nodes_eq : table.nodes = nodes
  recorded : ∀ id value, table.values[id]? = some (some value) → nodeValue nodes id = .ok value

variable {table : ValueTable}

theorem Shows.value_eq (shows : table.Shows nodes) (id : NodeId) :
    table.value id = nodeValue nodes id := by
  unfold value
  split
  · next value found => exact (shows.recorded id value found).symm
  · rw [shows.nodes_eq]

theorem shows_ofNodes (nodes : Array Node) : (ofNodes nodes).Shows nodes where
  nodes_eq := rfl
  recorded id value found := by simp [ofNodes, Array.getElem?_replicate] at found

/-- What is recorded is the value of the node, or was recorded before. -/
theorem recorded_of_record {id other : NodeId} {value : NodeValue}
    (found : (table.record id).values[other]? = some (some value)) :
    table.values[other]? = some (some value) ∨ id = other ∧ table.value id = .ok value := by
  simp only [record, Array.getElem?_setIfInBounds] at found
  split at found
  · next same =>
      obtain ⟨-, found⟩ := Option.ite_none_right_eq_some.mp found
      refine .inr ⟨same, ?_⟩
      cases value_eq : table.value id with
      | error fault => simp [value_eq, Except.toOption] at found
      | ok own => simpa [value_eq, Except.toOption] using found
  · exact .inl found

theorem Shows.record (shows : table.Shows nodes) (id : NodeId) :
    (table.record id).Shows nodes where
  nodes_eq := shows.nodes_eq
  recorded other value found := by
    rcases recorded_of_record found with before | ⟨rfl, value_eq⟩
    · exact shows.recorded other value before
    · rw [← shows.value_eq id, value_eq]

theorem Shows.foldl_record (shows : table.Shows nodes) (ids : List NodeId) :
    (ids.foldl ValueTable.record table).Shows nodes := by
  induction ids generalizing table with
  | nil => exact shows
  | cons id ids ih => exact ih (shows.record id)

end ValueTable

/-! ## Settling -/

/-- Whether a list or an object is held at a place. -/
def IsCollectionAt (nodes : Array Node) (id : NodeId) : Prop :=
  ∃ flow : Flow, flow.IsHeldAt nodes id ∧ nodeValue nodes id = .ok .collection

variable {table : ValueTable}

namespace ValueTable

theorem Shows.checkKey_text (shows : table.Shows nodes) {name : Text}
    (found : nodes[id]? = some (.scalar .text name)) : table.checkKey id = .ok () := by
  rw [checkKey, shows.value_eq, nodeValue_text found]
  rfl

/-- A value is possible, and its parts have to be looked at if it has any. -/
theorem Shows.checkPart_eq_ok (shows : table.Shows nodes) {flow : Flow}
    (held : flow.IsHeldAt nodes id) :
    ∃ parts, table.checkPart id = .ok parts ∧ ∀ part ∈ parts, IsCollectionAt nodes part := by
  have ofCollection (collection : nodeValue nodes id = .ok .collection) :
      ∃ parts, table.checkPart id = .ok parts ∧ ∀ part ∈ parts, IsCollectionAt nodes part := by
    refine ⟨[id], by rw [checkPart, shows.value_eq, collection]; rfl, fun part member => ?_⟩
    obtain rfl := List.mem_singleton.mp member
    exact ⟨flow, held, collection⟩
  cases flow with
  | scalar content isPlain =>
      refine ⟨[], ?_, by simp⟩
      rw [checkPart, shows.value_eq, nodeValue_scalar held.1 held.2]
      rfl
  | list items =>
      rcases held with ⟨ids, found, -⟩
      exact ofCollection (by rw [nodeValue, found]; rfl)
  | map members =>
      rcases held with ⟨entries, found, -⟩
      exact ofCollection (by rw [nodeValue, found]; rfl)

theorem exists_mapM_flatten_eq_ok {α : Type} {check : α → Except Fault (List NodeId)}
    {good : NodeId → Prop} {parts : List α}
    (succeeds : ∀ part ∈ parts, ∃ found, check part = .ok found ∧ ∀ id ∈ found, good id) :
    ∃ found, parts.mapM check = .ok found ∧ ∀ id ∈ found.flatten, good id := by
  induction parts with
  | nil => exact ⟨[], rfl, by simp⟩
  | cons part parts ih =>
      rcases succeeds part (by simp) with ⟨first, first_eq, firstGood⟩
      rcases ih fun other member => succeeds other (by simp [member]) with ⟨rest, rest_eq, restGood⟩
      refine ⟨first :: rest, by simp [List.mapM_cons, first_eq, rest_eq], ?_⟩
      intro id member
      rcases List.mem_append.mp member with inFirst | inRest
      · exact firstGood id inFirst
      · exact restGood id inRest

/-- The parts of a collection are possible. -/
theorem Shows.checkParts_eq_ok (shows : table.Shows nodes) (collection : IsCollectionAt nodes id) :
    ∃ parts, table.checkParts id = .ok parts ∧ ∀ part ∈ parts, IsCollectionAt nodes part := by
  rcases collection with ⟨flow, held, value_eq⟩
  cases flow with
  | scalar content isPlain =>
      rw [nodeValue_scalar held.1 held.2] at value_eq
      cases value_eq
  | list items =>
      rcases held with ⟨ids, found, itemsHeld⟩
      obtain ⟨parts, parts_eq, good⟩ := exists_mapM_flatten_eq_ok fun part member => by
        rcases itemsHeld.exists_isHeldAt member with ⟨item, itemHeld⟩
        exact shows.checkPart_eq_ok itemHeld
      exact ⟨parts.flatten, by simp [checkParts, shows.nodes_eq, found, parts_eq], good⟩
  | map members =>
      rcases held with ⟨entries, found, -, membersHeld⟩
      obtain ⟨parts, parts_eq, good⟩ := exists_mapM_flatten_eq_ok fun entry member => by
        obtain ⟨⟨name, flow⟩, -, keyFound, -, valueHeld⟩ :=
          membersHeld.exists_memberIsHeldAt member
        have check_eq : table.checkEntry entry = table.checkPart entry.2 := by
          rw [checkEntry, shows.checkKey_text keyFound]
          rfl
        exact check_eq ▸ shows.checkPart_eq_ok valueHeld
      exact ⟨parts.flatten, by simp [checkParts, shows.nodes_eq, found, parts_eq], good⟩

end ValueTable

/-! Keys that are texts are neither merge keys nor keys for a content. -/

theorem plainKeys_eq {entries : List (NodeId × NodeId)}
    (keys : ∀ entry ∈ entries, ∃ name, nodes[entry.1]? = some (.scalar .text name)) :
    plainKeys nodes entries = nodes := by
  induction entries with
  | nil => rfl
  | cons entry entries ih =>
      rcases keys entry (by simp) with ⟨name, found⟩
      have rest_eq := ih fun other member => keys other (by simp [member])
      rw [plainKeys] at rest_eq ⊢
      simpa [found, Node.tag] using rest_eq

theorem find?_merge_eq_none {entries : List (NodeId × NodeId)}
    (keys : ∀ entry ∈ entries, ∃ name, nodes[entry.1]? = some (.scalar .text name)) :
    entries.find? (fun entry => hasTag nodes .merge entry.1) = none := by
  refine List.find?_eq_none.mpr fun entry member => ?_
  rcases keys entry member with ⟨name, keyFound⟩
  rw [hasTag, keyFound]
  exact Bool.false_ne_true

theorem resolveMap_eq {entries : List (NodeId × NodeId)}
    (found : nodes[id]? = some (.map .map entries))
    (keys : ∀ entry ∈ entries, ∃ name, nodes[entry.1]? = some (.scalar .text name)) :
    resolveMap nodes id = .ok nodes := by
  have entries_eq : entriesAt nodes id = entries := by
    rw [entriesAt, found]
  rw [resolveMap, resolveMerges, entries_eq]
  simp only [find?_merge_eq_none keys, plainKeys_eq keys]

namespace ValueTable

/-- A collection has no merge keys to resolve. -/
theorem Shows.resolve_eq (shows : table.Shows nodes) (collection : IsCollectionAt nodes id) :
    table.resolve id = .ok table := by
  rcases collection with ⟨flow, held, value_eq⟩
  rw [resolve, shows.nodes_eq]
  cases flow with
  | scalar content isPlain =>
      rw [nodeValue_scalar held.1 held.2] at value_eq
      cases value_eq
  | list items =>
      rcases held with ⟨ids, found, -⟩
      rw [found]
  | map members =>
      rcases held with ⟨entries, found, -, membersHeld⟩
      have same : { table with nodes } = table := by rw [← shows.nodes_eq]
      rw [found]
      simp only [resolveMap_eq found membersHeld.exists_key, Outcome.ok_bind, Outcome.pure_eq_ok,
        same]

/-- Settling changes nothing of a value. -/
theorem Shows.exists_settle_eq (shows : table.Shows nodes) (steps : Nat) (seen queue : List NodeId)
    (collections : ∀ id ∈ queue, IsCollectionAt nodes id) :
    ∃ settled, table.settle steps seen queue = .ok settled ∧ settled.Shows nodes := by
  induction steps generalizing table seen queue with
  | zero => exact ⟨table, rfl, shows⟩
  | succ steps ih =>
      cases queue with
      | nil => exact ⟨table, rfl, shows⟩
      | cons id queue =>
          have collection := collections id (by simp)
          rcases shows.checkParts_eq_ok collection with ⟨parts, parts_eq, good⟩
          rw [settle, shows.resolve_eq collection, Outcome.ok_bind, parts_eq, Outcome.ok_bind]
          apply ih (shows.foldl_record _)
          intro other member
          rcases List.mem_append.mp member with inQueue | inParts
          · exact collections other (by simp [inQueue])
          · exact good other (List.mem_eraseDups.mp (List.mem_filter.mp inParts).1)

/-! ## Cells -/

theorem Shows.keyScalar_text (shows : table.Shows nodes) {name : Text}
    (found : nodes[id]? = some (.scalar .text name)) : table.keyScalar id = .text name := by
  rw [keyScalar, shows.value_eq, nodeValue_text found]

theorem Shows.isSameKey_eq_false (shows : table.Shows nodes) {left right : NodeId}
    {leftName rightName : Text} (leftFound : nodes[left]? = some (.scalar .text leftName))
    (rightFound : nodes[right]? = some (.scalar .text rightName)) (differ : leftName ≠ rightName) :
    table.isSameKey left right = false := by
  have places_ne : left ≠ right := by
    rintro rfl
    rw [leftFound] at rightFound
    cases rightFound
    exact differ rfl
  have notNan : table.isNanLiteral left = false := by
    rw [isNanLiteral, shows.value_eq, nodeValue_text leftFound]
  rw [isSameKey, shows.keyScalar_text leftFound, shows.keyScalar_text rightFound, notNan]
  simp [places_ne, Scalar.isSameKey, Scalar.magnitude?, differ]

/-- The keys of a map with different names are different keys. -/
theorem Shows.mergeEntries_isSameKey_eq (shows : table.Shows nodes) {owner : NodeId}
    {entries : List (NodeId × NodeId)} {members : List (Text × Flow)}
    (nodup : (members.map (·.1)).Nodup)
    (held : Flow.MembersAreHeldAt nodes owner entries members) :
    mergeEntries table.isSameKey entries = entries := by
  apply mergeEntries_eq_self
  induction entries generalizing members with
  | nil => exact .nil
  | cons entry entries ih =>
      cases members with
      | nil => exact held.elim
      | cons member members =>
          rcases member with ⟨name, flow⟩
          rcases List.nodup_cons.mp nodup with ⟨fresh, nodup⟩
          refine .cons (fun later inEntries => ?_) (ih nodup held.2)
          obtain ⟨⟨laterName, laterJson⟩, inMembers, laterHeld⟩ :=
            held.2.exists_memberIsHeldAt inEntries
          apply shows.isSameKey_eq_false held.1.1 laterHeld.1
          rintro rfl
          exact fresh (List.mem_map.mpr ⟨_, inMembers, rfl⟩)

theorem Shows.cellOf_scalar (shows : table.Shows nodes) {tag : Tag} {content : Text}
    {value : Scalar} (found : nodes[id]? = some (.scalar tag content))
    (value_eq : scalarValue tag content = .ok value) :
    table.cellOf id = .value (.scalar value) := by
  rw [cellOf, shows.nodes_eq, found]
  simp only [keyScalar, shows.value_eq, nodeValue_scalar found value_eq]

theorem Shows.cellOf_list (shows : table.Shows nodes) {ids : List NodeId}
    (found : nodes[id]? = some (.list .list ids)) :
    table.cellOf id = .value (.list (ids.map .cell)) := by
  rw [cellOf, shows.nodes_eq, found]

theorem Shows.cellOf_map (shows : table.Shows nodes) {entries : List (NodeId × NodeId)}
    (found : nodes[id]? = some (.map .map entries))
    (entries_eq : mergeEntries table.isSameKey entries = entries) :
    table.cellOf id =
      .value (.map (entries.map fun entry => (.cell entry.1, .cell entry.2))) := by
  rw [cellOf, shows.nodes_eq, found]
  simp only [entries_eq]

/-- The graph of a table. -/
def graph (table : ValueTable) : Graph :=
  { cells := (Array.range table.nodes.size).map table.cellOf }

theorem Shows.graph_layer (shows : table.Shows nodes) {node : Node} {layer : Layer Place}
    (found : nodes[id]? = some node) (cell_eq : table.cellOf id = .value layer) :
    table.graph.layer (.cell id) = layer := by
  have inside : id < table.nodes.size := by
    rw [shows.nodes_eq]
    exact (Array.getElem?_eq_some_iff.mp found).1
  have cell : table.graph.cells[id]? = some (.value layer) := by
    simp [graph, inside, cell_eq]
  rw [Graph.layer, cell]

end ValueTable

/-- The value of a document is in the graph of its settled table. -/
theorem NodeDocument.exists_value_eq {flow : Flow} (held : flow.IsHeldAt nodes 0) :
    ∃ settled : ValueTable, settled.Shows nodes ∧
      NodeDocument.value { nodes, root := 0 } =
        .ok { graph := settled.graph, root := .cell 0 } := by
  have shows := ValueTable.shows_ofNodes nodes
  rcases shows.checkPart_eq_ok held with ⟨queue, queue_eq, collections⟩
  rcases (shows.record 0).exists_settle_eq (nodes.size + 1) queue queue collections
    with ⟨settled, settle_eq, settledShows⟩
  refine ⟨settled, settledShows, ?_⟩
  rw [NodeDocument.value]
  simp only [queue_eq, Outcome.ok_bind, settle_eq]
  rfl

/-! ## Views -/

/-- Whether a value with the given document value is held at a place. -/
inductive Represents (nodes : Array Node) : Place → Value → Prop
  | intro {id : NodeId} (flow : Flow) :
      flow.IsHeldAt nodes id → Represents nodes (.cell id) flow.value

theorem forall₂_represents {owner : NodeId} {ids : List NodeId} {items : List Flow}
    (held : Flow.AreHeldAt nodes owner ids items) :
    List.Forall₂ (Represents nodes) (ids.map .cell) (Flow.itemValues items) := by
  induction ids generalizing items with
  | nil =>
      cases items with
      | nil => exact .nil
      | cons item items => exact held.elim
  | cons id ids ih =>
      cases items with
      | nil => exact held.elim
      | cons item items => exact .cons (.intro item held.1.2) (ih held.2)

theorem relatedEntries_represents {owner : NodeId} {entries : List (NodeId × NodeId)}
    {members : List (Text × Flow)} (held : Flow.MembersAreHeldAt nodes owner entries members) :
    RelatedEntries (Represents nodes) (entries.map fun entry => (.cell entry.1, .cell entry.2))
      (Flow.memberValues members) := by
  induction entries generalizing members with
  | nil =>
      cases members with
      | nil => exact .nil
      | cons member members => exact held.elim
  | cons entry entries ih =>
      cases members with
      | nil => exact held.elim
      | cons member members =>
          rcases member with ⟨name, flow⟩
          have keyHeld : (Flow.scalar name false).IsHeldAt nodes entry.1 :=
            ⟨held.1.1, Flow.hasValue_quoted name⟩
          exact .cons ⟨.intro _ keyHeld, .intro flow held.1.2.2⟩ (ih held.2)

theorem layer_represents (shows : table.Shows nodes) {flow : Flow} (held : flow.IsHeldAt nodes id) :
    Layer.Related (Represents nodes) (table.graph.layer (.cell id)) flow.value.layer := by
  cases flow with
  | scalar content isPlain =>
      rw [shows.graph_layer held.1 (shows.cellOf_scalar held.1 held.2)]
      exact .scalar
  | list items =>
      rcases held with ⟨ids, found, itemsHeld⟩
      rw [shows.graph_layer found (shows.cellOf_list found)]
      exact .list (forall₂_represents itemsHeld)
  | map members =>
      rcases held with ⟨entries, found, nodup, membersHeld⟩
      have entries_eq := shows.mergeEntries_isSameKey_eq nodup membersHeld
      rw [shows.graph_layer found (shows.cellOf_map found entries_eq)]
      exact .map (relatedEntries_represents membersHeld)

/-! A value that is held in a table does not stand inside itself. -/

theorem quotedAt_scalar {graph : Graph} {path : List Place} {place : Place} {content : Scalar}
    (layer_eq : graph.layer place = .scalar content) :
    graph.quotedAt path place = content.quoted := by
  rw [Graph.quotedAt, layer_eq]
  rfl

theorem quotedAt_collection {graph : Graph} {path : List Place} {place : Place}
    {layer : Layer Place} (layer_eq : graph.layer place = layer)
    (collection : layer.isCollection = true) (fresh : place ∉ path) :
    graph.quotedAt path place =
      (layer.traverse (graph.quotedAt (place :: path)) >>= Layer.quoted) := by
  rw [Graph.quotedAt, layer_eq]
  simp [collection, fresh]

/-- Whether all collections on a path stand before a place. -/
def IsBefore (path : List Place) (id : NodeId) : Prop :=
  ∀ place ∈ path, ∃ earlier < id, place = .cell earlier

theorem IsBefore.not_mem {path : List Place} (before : IsBefore path id) :
    .cell id ∉ path := by
  intro member
  rcases before _ member with ⟨earlier, less, place_eq⟩
  cases place_eq
  exact Nat.lt_irrefl _ less

theorem IsBefore.cons {path : List Place} {part : NodeId} (before : IsBefore path id)
    (less : id < part) : IsBefore (.cell id :: path) part := by
  intro place member
  rcases List.mem_cons.mp member with rfl | inPath
  · exact ⟨id, less, rfl⟩
  · rcases before place inPath with ⟨earlier, earlier_lt, place_eq⟩
    exact ⟨earlier, Nat.lt_trans earlier_lt less, place_eq⟩

mutual

/-- The quoted form of a value in a table is that of its document value. -/
theorem quotedAt_eq (shows : table.Shows nodes) : ∀ (flow : Flow) {id : NodeId}
    {path : List Place}, flow.IsHeldAt nodes id → IsBefore path id →
      table.graph.quotedAt path (.cell id) = flow.value.quoted
  | .scalar _ _, id, path, held, _ =>
      quotedAt_scalar (shows.graph_layer held.1 (shows.cellOf_scalar held.1 held.2))
  | .list items, id, path, held, before => by
      rcases held with ⟨ids, found, itemsHeld⟩
      rw [quotedAt_collection (shows.graph_layer found (shows.cellOf_list found)) rfl
          before.not_mem,
        Layer.traverse, quotedItems_eq shows items itemsHeld before, Flow.value, Value.quoted]
      cases Value.quotedItems (Flow.itemValues items) <;> rfl
  | .map members, id, path, held, before => by
      rcases held with ⟨entries, found, nodup, membersHeld⟩
      have cell_eq := shows.cellOf_map found (shows.mergeEntries_isSameKey_eq nodup membersHeld)
      rw [quotedAt_collection (shows.graph_layer found cell_eq) rfl before.not_mem,
        Layer.traverse, quotedEntries_eq shows members membersHeld before, Flow.value,
        Value.quoted]
      cases Value.quotedEntries (Flow.memberValues members) <;> rfl

theorem quotedItems_eq (shows : table.Shows nodes) : ∀ (items : List Flow) {owner : NodeId}
    {ids : List NodeId} {path : List Place}, Flow.AreHeldAt nodes owner ids items →
      IsBefore path owner →
      (ids.map Place.cell).mapM (table.graph.quotedAt (.cell owner :: path)) =
        Value.quotedItems (Flow.itemValues items)
  | [], _, [], _, _, _ => rfl
  | item :: items, owner, id :: ids, path, held, before => by
      rw [List.map_cons, List.mapM_cons, quotedAt_eq shows item held.1.2 (before.cons held.1.1),
        quotedItems_eq shows items held.2 before, Flow.itemValues, Value.quotedItems]

theorem quotedEntries_eq (shows : table.Shows nodes) : ∀ (members : List (Text × Flow))
    {owner : NodeId} {entries : List (NodeId × NodeId)} {path : List Place},
    Flow.MembersAreHeldAt nodes owner entries members → IsBefore path owner →
      (entries.map fun entry => (Place.cell entry.1, Place.cell entry.2)).mapM
          (fun (key, value) => return (← table.graph.quotedAt (.cell owner :: path) key,
            ← table.graph.quotedAt (.cell owner :: path) value)) =
        Value.quotedEntries (Flow.memberValues members)
  | [], _, [], _, _, _ => rfl
  | (name, flow) :: members, owner, entry :: entries, path, held, before => by
      rcases held with ⟨⟨keyFound, less, valueHeld⟩, membersHeld⟩
      rw [List.map_cons, List.mapM_cons, quotedEntries_eq shows members membersHeld before]
      simp only [quotedAt_scalar (shows.graph_layer keyFound (shows.cellOf_scalar keyFound rfl)),
        quotedAt_eq shows flow valueHeld (before.cons less), Flow.memberValues,
        Value.quotedEntries, Flow.memberValue, Value.quotedEntry, Value.quoted]

end

/-- The graph of a table shows the values in the table. -/
theorem graph_agrees (shows : table.Shows nodes) :
    table.graph.view.Agrees Value.view (Represents nodes) where
  layer := by
    rintro _ _ ⟨flow, held⟩
    exact layer_represents shows held
  quoted := by
    rintro _ _ ⟨flow, held⟩
    exact quotedAt_eq shows flow held (by simp [IsBefore])

/-! ## Reading -/

/-- A sound value is read from its tokens as the graph of a table with its nodes. -/
theorem exists_read_of_tokensOf {text : Text} {characters : List Char} {flow : Flow}
    (characters_eq : text.characters? = some characters)
    (allowed : ∀ character ∈ characters, isAllowed character = true)
    (tokens_eq : tokensOf characters = flow.tokens ++ [.endOfText]) (sound : flow.IsSound) :
    ∃ table : ValueTable, table.Shows (flow.nodesFrom 0).toArray ∧
      read text = .ok (some { graph := table.graph, root := .cell 0 }) := by
  have allAllowed : characters.all isAllowed = true := List.all_eq_true.mpr allowed
  have held : flow.IsHeldAt (flow.nodesFrom 0).toArray 0 :=
    @Flow.isHeldAt_of_nodesFrom _ flow sound [] [] (by simp)
  rcases NodeDocument.exists_value_eq held with ⟨table, shows, value_eq⟩
  refine ⟨table, shows, ?_⟩
  rw [read, characters_eq]
  simp [allAllowed, tokens_eq, flow.ofTokens_eq, value_eq]

end UsageContracts.Yaml
