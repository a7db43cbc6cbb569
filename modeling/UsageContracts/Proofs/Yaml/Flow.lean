import UsageContracts.Document.Value
import UsageContracts.Yaml.Node
import UsageContracts.Yaml.Scalar.Content

/-!
# Values between brackets

A value that is written between brackets, without regard to its spacing: scalars
with or without quotation marks, lists, and maps with quoted keys.  The spacing
does not matter to the tokens of such a value, to the nodes that are built from
them and to the document value.
-/

namespace UsageContracts.Yaml

/-- A value as it is written between brackets. -/
inductive Flow
  | scalar (content : Text) (isPlain : Bool)
  | list (items : List Flow)
  | map (members : List (Text × Flow))

namespace Flow

/-! ## Scalars -/

/-- The tag of a scalar: that of its form if it is plain. -/
def scalarTag (content : Text) (isPlain : Bool) : Tag :=
  NodeProperties.scalarTag {} content isPlain

/-- The value of a scalar, or null if it has none. -/
def scalarContent (content : Text) (isPlain : Bool) : Scalar :=
  match scalarValue (scalarTag content isPlain) content with
  | .ok result => result
  | .error _ => .null

/-- Whether a scalar has a value. -/
def HasValue (content : Text) (isPlain : Bool) : Prop :=
  scalarValue (scalarTag content isPlain) content = .ok (scalarContent content isPlain)

theorem hasValue_quoted (content : Text) : HasValue content false :=
  rfl

theorem hasValue_of_scalarValue {content : Text} {isPlain : Bool} {scalar : Scalar}
    (value_eq : scalarValue (scalarTag content isPlain) content = .ok scalar) :
    HasValue content isPlain ∧ scalarContent content isPlain = scalar := by
  have content_eq : scalarContent content isPlain = scalar := by
    rw [scalarContent, value_eq]
  exact ⟨by rw [HasValue, value_eq, content_eq], content_eq⟩

/-! ## Values -/

mutual

/-- The document value of a value. -/
def value : Flow → Value
  | .scalar content isPlain => .scalar (scalarContent content isPlain)
  | .list items => .list (itemValues items)
  | .map members => .map (memberValues members)
termination_by structural flow => flow

/-- The document values of the items of a list. -/
def itemValues : List Flow → List Value
  | [] => []
  | item :: items => value item :: itemValues items
termination_by structural items => items

/-- The entries of the members of a map. -/
def memberValues : List (Text × Flow) → List (Value × Value)
  | [] => []
  | member :: members => memberValue member :: memberValues members
termination_by structural members => members

/-- The entry of a member. -/
def memberValue : Text × Flow → Value × Value
  | (name, flow) => (.scalar (.text name), value flow)
termination_by structural member => member

end

mutual

/-- Whether all scalars have values and the keys of each map differ. -/
def IsSound : Flow → Prop
  | .scalar content isPlain => HasValue content isPlain
  | .list items => AreSound items
  | .map members => (members.map (·.1)).Nodup ∧ MembersAreSound members
termination_by structural flow => flow

/-- Whether the items of a list are sound. -/
def AreSound : List Flow → Prop
  | [] => True
  | item :: items => IsSound item ∧ AreSound items
termination_by structural items => items

/-- Whether the members of a map are sound. -/
def MembersAreSound : List (Text × Flow) → Prop
  | [] => True
  | member :: members => MemberIsSound member ∧ MembersAreSound members
termination_by structural members => members

/-- Whether a member of a map is sound. -/
def MemberIsSound : Text × Flow → Prop
  | (_, flow) => IsSound flow
termination_by structural member => member

end

/-! ## Tokens -/

mutual

/-- The tokens of a value. -/
def tokens : Flow → List Token
  | .scalar content isPlain => [.scalar content isPlain]
  | .list [] => [.openList, .closeList]
  | .list (item :: items) => .openList :: (tokens item ++ itemTokens items ++ [.closeList])
  | .map [] => [.openMap, .closeMap]
  | .map (member :: members) =>
      .openMap :: (tokensOfMember member ++ memberTokens members ++ [.closeMap])
termination_by structural flow => flow

/-- The tokens of the further items of a list. -/
def itemTokens : List Flow → List Token
  | [] => []
  | item :: items => .comma :: (tokens item ++ itemTokens items)
termination_by structural items => items

/-- The tokens of the further members of a map. -/
def memberTokens : List (Text × Flow) → List Token
  | [] => []
  | member :: members => .comma :: (tokensOfMember member ++ memberTokens members)
termination_by structural members => members

/-- The tokens of a member of a map. -/
def tokensOfMember : Text × Flow → List Token
  | (name, flow) => .key :: .scalar name false :: .value :: tokens flow
termination_by structural member => member

end

/-! ## Nodes -/

mutual

/-- The nodes of a value, the first of which is at the given place.  Every
collection stands before its parts, and every key before its value. -/
def nodesFrom (id : NodeId) : Flow → List Node
  | .scalar content isPlain => [.scalar (scalarTag content isPlain) content]
  | .list items => .list .list (itemIds (id + 1) items) :: itemNodes (id + 1) items
  | .map members => .map .map (memberIds (id + 1) members) :: memberNodes (id + 1) members
termination_by structural flow => flow

/-- The nodes of the items of a list. -/
def itemNodes (id : NodeId) : List Flow → List Node
  | [] => []
  | item :: items =>
      nodesFrom id item ++ itemNodes (id + (nodesFrom id item).length) items
termination_by structural items => items

/-- The places of the items of a list. -/
def itemIds (id : NodeId) : List Flow → List NodeId
  | [] => []
  | item :: items => id :: itemIds (id + (nodesFrom id item).length) items
termination_by structural items => items

/-- The nodes of the members of a map. -/
def memberNodes (id : NodeId) : List (Text × Flow) → List Node
  | [] => []
  | member :: members =>
      nodesOfMember id member ++ memberNodes (id + (nodesOfMember id member).length) members
termination_by structural members => members

/-- The places of the names of a map's members and of their values. -/
def memberIds (id : NodeId) : List (Text × Flow) → List (NodeId × NodeId)
  | [] => []
  | member :: members =>
      (id, id + 1) :: memberIds (id + (nodesOfMember id member).length) members
termination_by structural members => members

/-- The nodes of a member of a map. -/
def nodesOfMember (id : NodeId) : Text × Flow → List Node
  | (name, flow) => .scalar .text name :: nodesFrom (id + 1) flow
termination_by structural member => member

end

end Flow

end UsageContracts.Yaml
