import UsageContracts.Document.Value

/-!
# JSON values

The values of JSON, with object members in order, and their place among the
document values.
-/

namespace UsageContracts

/-- A JSON value. -/
inductive Json
  | null
  | bool (value : Bool)
  | integer (value : Int)
  | float (value : Binary64)
  | text (value : Text)
  | list (items : List Json)
  | object (members : List (Text × Json))
deriving Inhabited

/-- A member of an object. -/
def member (name : Text) (json : Json) : Text × Json :=
  (name, json)

/-- A member of an object that is present only on a condition. -/
def memberIf (condition : Bool) (name : Text) (json : Json) : List (Text × Json) :=
  if condition then [member name json] else []

namespace Json

instance : Coe Text Json := ⟨.text⟩

mutual

/-- The document value of a JSON value. -/
def toValue : Json → Value
  | .null => .null
  | .bool value => .scalar (.bool value)
  | .integer value => .scalar (.integer value)
  | .float value => .scalar (.float value)
  | .text value => .scalar (.text value)
  | .list items => .list (itemValues items)
  | .object members => .map (memberValues members)
termination_by structural json => json

/-- The document values of the items of a list. -/
def itemValues : List Json → List Value
  | [] => []
  | item :: items => toValue item :: itemValues items
termination_by structural items => items

/-- The document values of the members of an object. -/
def memberValues : List (Text × Json) → List (Value × Value)
  | [] => []
  | member :: members => memberValue member :: memberValues members
termination_by structural members => members

/-- The map entry of a member. -/
def memberValue : Text × Json → Value × Value
  | (name, json) => (.scalar (.text name), toValue json)
termination_by structural member => member

end

end Json

end UsageContracts
