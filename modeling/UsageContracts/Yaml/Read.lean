import UsageContracts.Document.Graph
import UsageContracts.Yaml.Merge
import UsageContracts.Yaml.Scalar.Content
import UsageContracts.Yaml.Token.Sequence

/-!
# Reading YAML text

The document value of a text.  Its form is checked first, for the whole text;
the values are then determined collection by collection, in the order of their
distance from the root, and the first that is impossible is the fault of the
text.
-/

namespace UsageContracts.Yaml

/-! ## Values of nodes -/

/-- What is known of a node's value before its parts are looked at. -/
inductive NodeValue
  /-- A scalar.  The literals for what is not a number are told apart from other
  such numbers. -/
  | scalar (content : Scalar) (isNanLiteral : Bool)
  | collection

/-- The content of a node that stands for a scalar.  Of a map it is that under
the first key for the content.  Such keys can lead back to the map, which is met
again once there are more steps than nodes. -/
def scalarContent (nodes : Array Node) : Nat → NodeId → Except Fault Text
  | 0, _ => .error .endless
  | steps + 1, id =>
      match nodes[id]? with
      | some (.scalar _ content) => .ok content
      | some (.map _ entries) =>
          match entries.find? fun (key, _) => hasTag nodes .value key with
          | some (_, value) => scalarContent nodes steps value
          | none => .error .form
      | _ => .error .form

/-- The value of a node that stands for a scalar. -/
def scalarNodeValue (nodes : Array Node) (id : NodeId) (node : Node) :
    Except Fault NodeValue := do
  let content ← scalarContent nodes (nodes.size + 1) id
  match node.tag, node with
  | .timestamp, .map _ _ => throw .timestampCollection
  | tag, _ =>
      let value ← scalarValue tag content
      return .scalar value (tag == .float && isNanForm content)

/-- The value of a node, as far as it is known before its parts are. -/
def nodeValue (nodes : Array Node) (id : NodeId) : Except Fault NodeValue :=
  match nodes[id]? with
  | none => .error .form
  | some node =>
      if node.tag.isCollection then .ok .collection
      else if node.tag.isScalar then scalarNodeValue nodes id node
      else .error .form

/-! ## Values of tables -/

/-- A table of nodes and the values of those that have been looked at.  A value
stays as it is, whatever becomes of the nodes later. -/
structure ValueTable where
  nodes : Array Node
  values : Array (Option NodeValue)

namespace ValueTable

/-- A table before any of its nodes has been looked at. -/
def ofNodes (nodes : Array Node) : ValueTable :=
  { nodes, values := .replicate nodes.size none }

/-- The value of a node, which is determined when it is first looked at. -/
def value (table : ValueTable) (id : NodeId) : Except Fault NodeValue :=
  match table.values[id]? with
  | some (some value) => .ok value
  | _ => nodeValue table.nodes id

/-- Record the value of a node. -/
def record (table : ValueTable) (id : NodeId) : ValueTable :=
  { table with values := table.values.setIfInBounds id (table.value id).toOption }

/-- Check a node that is no key.  The result holds the node if its parts have
to be looked at. -/
def checkPart (table : ValueTable) (id : NodeId) : Except Fault (List NodeId) := do
  match ← table.value id with
  | .scalar _ _ => return []
  | .collection => return [id]

/-- Check a key of a map, which has to be a scalar. -/
def checkKey (table : ValueTable) (id : NodeId) : Except Fault Unit := do
  match ← table.value id with
  | .scalar _ _ => return ()
  | .collection => throw .form

/-- Check an entry of a map. -/
def checkEntry (table : ValueTable) (entry : NodeId × NodeId) : Except Fault (List NodeId) := do
  table.checkKey entry.1
  table.checkPart entry.2

/-- Check an item of a list of pairs, which has to be a map with one entry. -/
def checkPair (table : ValueTable) (item : NodeId) : Except Fault (List NodeId) := do
  match table.nodes[item]? with
  | some (.map _ [(key, value)]) =>
      return (← table.checkPart key) ++ (← table.checkPart value)
  | _ => throw .form

/-- Check the parts of a collection in order.  The result holds those among
them whose parts have to be looked at in turn. -/
def checkParts (table : ValueTable) (id : NodeId) : Except Fault (List NodeId) :=
  match table.nodes[id]? with
  | some (.list .list items) => do
      return (← items.mapM table.checkPart).flatten
  | some (.map .map entries) | some (.map .set entries) => do
      return (← entries.mapM table.checkEntry).flatten
  | some (.list .orderedMap items) | some (.list .pairs items) => do
      return (← items.mapM table.checkPair).flatten
  | _ => .error .form

/-- The parts of a collection. -/
def partsAt (table : ValueTable) (id : NodeId) : List NodeId :=
  let ends (entries : List (NodeId × NodeId)) : List NodeId :=
    entries.flatMap fun (key, value) => [key, value]
  match table.nodes[id]? with
  | some (.list .list items) => items
  | some (.list _ items) => ends (items.flatMap (entriesAt table.nodes))
  | some (.map _ entries) => ends entries
  | _ => []

/-- Resolve the merge keys of a collection if it is made of entries. -/
def resolve (table : ValueTable) (id : NodeId) : Except Fault ValueTable :=
  match table.nodes[id]? with
  | some (.map .map _) | some (.map .set _) => do
      return { table with nodes := ← resolveMap table.nodes id }
  | _ => .ok table

/-- Resolve the merge keys of the collections in a queue and check their parts,
then those of the collections among the parts.  `seen` holds the collections
that are or were in the queue.  The result is the table with merge keys
resolved.  No collection is looked at twice, so that there are at most as many
steps as nodes. -/
def settle (table : ValueTable) : Nat → List NodeId → List NodeId → Except Fault ValueTable
  | 0, _, _ => .ok table
  | _, _, [] => .ok table
  | steps + 1, seen, id :: queue => do
      let table ← table.resolve id
      let parts ← table.checkParts id
      let fresh := parts.eraseDups.filter (!seen.contains ·)
      ((table.partsAt id).foldl record table).settle steps (fresh ++ seen) (queue ++ fresh)

end ValueTable

/-! ## Values of documents -/

namespace ValueTable

/-- The scalar that a node is, or null. -/
def keyScalar (table : ValueTable) (id : NodeId) : Scalar :=
  match table.value id with
  | .ok (.scalar content _) => content
  | _ => .null

/-- Whether a node is a literal for what is not a number. -/
def isNanLiteral (table : ValueTable) (id : NodeId) : Bool :=
  match table.value id with
  | .ok (.scalar _ isNanLiteral) => isNanLiteral
  | _ => false

/-- Whether two nodes are the same key of a map.  All literals for what is not a number
stand for one object and so for one key, although it equals no number. -/
def isSameKey (table : ValueTable) (left right : NodeId) : Bool :=
  left == right || (table.isNanLiteral left && table.isNanLiteral right) ||
    (table.keyScalar left).isSameKey (table.keyScalar right)

/-- The cell of a node.  Nothing says in which order a set is gone through; here it is
the one in which its members are written. -/
def cellOf (table : ValueTable) (id : NodeId) : Cell :=
  let places (ids : List NodeId) : List Place := ids.map .cell
  let pairs (entries : List (NodeId × NodeId)) : List (Place × Place) :=
    entries.map fun (key, value) => (.cell key, .cell value)
  match table.nodes[id]? with
  | some (.list .list items) => .value (.list (places items))
  | some (.map .map entries) => .value (.map (pairs (mergeEntries table.isSameKey entries)))
  | some (.map .set entries) =>
      .value (.set (places ((mergeEntries table.isSameKey entries).map (·.1))))
  | some (.list .orderedMap items) | some (.list .pairs items) =>
      .pairs (pairs (items.flatMap (entriesAt table.nodes)))
  | _ => .value (.scalar (table.keyScalar id))

end ValueTable

/-- A value in a graph. -/
structure Document where
  graph : Graph
  root : Place

namespace NodeDocument

/-- The value of a document. -/
def value (document : NodeDocument) : Except Fault Document := do
  let table := ValueTable.ofNodes document.nodes
  let queue ← table.checkPart document.root
  let table ← (table.record document.root).settle (document.nodes.size + 1) queue queue
  return {
    graph := { cells := (Array.range table.nodes.size).map table.cellOf }
    root := .cell document.root }

end NodeDocument

/-- Read a text.  A text without a document gives `none`. -/
def read (text : Text) : Except Fault (Option Document) := do
  match text.characters? with
  | none => throw .form
  | some characters =>
      if !characters.all isAllowed then throw .form
      match ← NodeDocument.ofTokens (tokensOf characters) with
      | none => return none
      | some document => return some (← document.value)

end UsageContracts.Yaml
