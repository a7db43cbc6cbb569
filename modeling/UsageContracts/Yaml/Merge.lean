import UsageContracts.Yaml.Node

/-!
# Merge keys

A map with merge keys takes over the entries of the maps under those keys.  The
entries taken over come first, and those of several maps in a list in reverse
order of the maps, so that an entry of the map's own, and among the others one
of an earlier map in a list, is the last one with its key.
-/

namespace UsageContracts.Yaml

/-- The tag of a node. -/
def Node.tag : Node → Tag
  | .scalar tag _ => tag
  | .list tag _ => tag
  | .map tag _ => tag

/-- A node with another tag. -/
def Node.withTag (tag : Tag) : Node → Node
  | .scalar _ content => .scalar tag content
  | .list _ items => .list tag items
  | .map _ entries => .map tag entries

/-- Whether the node at a place has the given tag. -/
def hasTag (nodes : Array Node) (tag : Tag) (id : NodeId) : Bool :=
  nodes[id]?.any (·.tag == tag)

/-- The entries of a map; other nodes have none. -/
def entriesAt (nodes : Array Node) (id : NodeId) : List (NodeId × NodeId) :=
  match nodes[id]? with
  | some (.map _ entries) => entries
  | _ => []

/-- Give a map other entries. -/
def setEntries (nodes : Array Node) (id : NodeId) (entries : List (NodeId × NodeId)) :
    Array Node :=
  match nodes[id]? with
  | some (.map tag _) => nodes.setIfInBounds id (.map tag entries)
  | _ => nodes

/-- Make ordinary texts of the keys that otherwise mark the content of a
scalar. -/
def plainKeys (nodes : Array Node) (entries : List (NodeId × NodeId)) : Array Node :=
  entries.foldl (fun nodes (key, _) =>
    match nodes[key]? with
    | some node =>
        if node.tag = .value then nodes.setIfInBounds key (node.withTag .text) else nodes
    | none => nodes) nodes

/-- Whether a node is a map. -/
def isMapAt (nodes : Array Node) (id : NodeId) : Bool :=
  match nodes[id]? with
  | some (.map _ _) => true
  | _ => false

/-- The maps under a merge key: one map, or the maps of a list. -/
def mergedMaps (nodes : Array Node) (id : NodeId) : Except Fault (List NodeId) :=
  match nodes[id]? with
  | some (.map _ _) => .ok [id]
  | some (.list _ items) => if items.all (isMapAt nodes) then .ok items else .error .form
  | _ => .error .form

/-- The number of merge keys among entries. -/
def mergesIn (nodes : Array Node) (entries : List (NodeId × NodeId)) : Nat :=
  entries.countP fun entry => hasTag nodes .merge entry.1

/-- The number of merge keys of all maps. -/
def mergeCount (nodes : Array Node) : Nat :=
  (List.range nodes.size).foldl (fun count id => count + mergesIn nodes (entriesAt nodes id)) 0

/-- Take over the entries of the maps under the merge keys of a map.  A merge key
is removed before the maps under it have their own merge keys resolved, the map
itself perhaps among them; the merge keys after it come next, and the entries
taken over are put before all others at last. -/
def resolveMerges : Nat → Array Node → NodeId → Except Fault (Array Node)
  | 0, nodes, _ => .ok nodes
  | steps + 1, nodes, id =>
      let isMerge (entry : NodeId × NodeId) : Bool := hasTag nodes .merge entry.1
      let entries := entriesAt nodes id
      match entries.find? isMerge with
      | none => .ok (plainKeys nodes entries)
      | some (_, merged) => do
          let maps ← mergedMaps nodes merged
          let takeOver (state : Array Node × List (NodeId × NodeId)) (map : NodeId) :
              Except Fault (Array Node × List (NodeId × NodeId)) := do
            let (nodes, inherited) := state
            let nodes ← resolveMerges steps nodes map
            return (nodes, entriesAt nodes map ++ inherited)
          let nodes := setEntries nodes id (entries.eraseP isMerge)
          let (nodes, inherited) ← maps.foldlM takeOver (nodes, [])
          let nodes ← resolveMerges steps nodes id
          return setEntries nodes id (inherited ++ entriesAt nodes id)

/-- Resolve the merge keys of a map.  Every step removes one of the merge keys of all
maps and none is added, so one step more than there are of them is enough. -/
def resolveMap (nodes : Array Node) (id : NodeId) : Except Fault (Array Node) :=
  resolveMerges (mergeCount nodes + 1) nodes id

end UsageContracts.Yaml
