import UsageContracts.Yaml.Form

/-!
# Tags

The tags that say what a scalar or a collection is, and the tag that a plain
scalar has by its form.
-/

namespace UsageContracts.Yaml

/-- What a node is. -/
inductive Tag
  | null
  | bool
  | integer
  | float
  | binary
  | timestamp
  | orderedMap
  | pairs
  | set
  | text
  | list
  | map
  /-- A key whose value is merged into the map. -/
  | merge
  /-- A key for the content of a map that stands for a scalar. -/
  | value
  | unknown
deriving DecidableEq

namespace Tag

/-- Whether a tag is that of a collection. -/
def isCollection (tag : Tag) : Bool :=
  tag == .list || tag == .map || tag == .set || tag == .orderedMap || tag == .pairs

/-- Whether a tag is that of a scalar with a value. -/
def isScalar (tag : Tag) : Bool :=
  tag == .null || tag == .bool || tag == .integer || tag == .float || tag == .binary ||
    tag == .timestamp || tag == .text

/-- What the full names of all known tags begin with. -/
def namespaceName : List Char :=
  "tag:yaml.org,2002:".toList

/-- The known tags by their local names. -/
def localNames : List (String × Tag) :=
  [ ("null", .null), ("bool", .bool), ("int", .integer), ("float", .float),
    ("binary", .binary), ("timestamp", .timestamp), ("omap", .orderedMap), ("pairs", .pairs),
    ("set", .set), ("str", .text), ("seq", .list), ("map", .map), ("merge", .merge),
    ("value", .value) ]

/-- The tag with the given full name. -/
def ofName (name : List Char) : Tag :=
  match localNames.find? fun entry => namespaceName ++ entry.1.toList == name with
  | some (_, tag) => tag
  | none => .unknown

/-- The tag that a plain scalar has by its form.  A line feed at the end of more
than nothing does not matter. -/
def ofPlain (content : List Char) : Tag :=
  let text :=
    if content.length ≠ 1 ∧ content.getLast? = some '\n' then content.dropLast else content
  if Form.isTruthValue text then .bool
  else if Form.isFloat text then .float
  else if Form.isInteger text then .integer
  else if text = ['<', '<'] then .merge
  else if Form.isNull text then .null
  else if Form.isTimestamp text then .timestamp
  else if text = ['='] then .value
  else .text

/-- The tag that a text has by its form. -/
def ofText (content : Text) : Tag :=
  match content.characters? with
  | some characters => ofPlain characters
  | none => .text

end Tag

end UsageContracts.Yaml
