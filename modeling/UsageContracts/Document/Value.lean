import UsageContracts.Document.Layer

/-!
# Values as trees

Document values in which every collection holds its own parts.  A map keeps its
entries in order; its keys differ from each other when it is built by
`Value.ofEntries`.
-/

namespace UsageContracts

/-- A document value without sharing. -/
inductive Value
  | scalar (content : Scalar)
  | list (items : List Value)
  | tuple (items : List Value)
  | set (members : List Value)
  | map (entries : List (Value × Value))
deriving Inhabited

namespace Value

instance : Coe Text Value := ⟨fun text => .scalar (.text text)⟩

/-- The null value. -/
def null : Value :=
  .scalar .null

/-- The outermost layer of a value. -/
def layer : Value → Layer Value
  | .scalar content => .scalar content
  | .list items => .list items
  | .tuple items => .tuple items
  | .set members => .set members
  | .map entries => .map entries

/-- The value with the given outermost layer. -/
def ofLayer : Layer Value → Value
  | .scalar content => .scalar content
  | .list items => .list items
  | .tuple items => .tuple items
  | .set members => .set members
  | .map entries => .map entries

mutual

/-- The quoted form of a value. -/
def quoted : Value → Except NumeralFault Text
  | .scalar content => content.quoted
  | .list items => do Layer.quoted (.list (← quotedItems items))
  | .tuple items => do Layer.quoted (.tuple (← quotedItems items))
  | .set members => do Layer.quoted (.set (← quotedItems members))
  | .map entries => do Layer.quoted (.map (← quotedEntries entries))
termination_by structural value => value

/-- The quoted forms of the items of a collection. -/
def quotedItems : List Value → Except NumeralFault (List Text)
  | [] => .ok []
  | item :: items => return (← quoted item) :: (← quotedItems items)
termination_by structural items => items

/-- The quoted forms of the entries of a map. -/
def quotedEntries : List (Value × Value) → Except NumeralFault (List (Text × Text))
  | [] => .ok []
  | entry :: entries => return (← quotedEntry entry) :: (← quotedEntries entries)
termination_by structural entries => entries

/-- The quoted forms of a key and its value. -/
def quotedEntry : Value × Value → Except NumeralFault (Text × Text)
  | (key, value) => return (← quoted key, ← quoted value)
termination_by structural entry => entry

end

/-- The view of values as trees. -/
def view : View Value :=
  { layer := layer
    quoted := quoted }

mutual

/-- Whether two values are the same key of a map.  Besides scalars only tuples
can be keys, and they are compared part by part. -/
def isSameKey : Value → Value → Bool
  | .scalar left, .scalar right => left.isSameKey right
  | .tuple left, .tuple right => areSameKeys left right
  | _, _ => false
termination_by structural value => value

/-- Whether two lists hold the same keys in the same order. -/
def areSameKeys : List Value → List Value → Bool
  | [], [] => true
  | left :: lefts, right :: rights => isSameKey left right && areSameKeys lefts rights
  | _, _ => false
termination_by structural values => values

end

end Value

/-- Put an entry into a map: in place of the value of the same key, which keeps
its position, or at the end. -/
def putEntry {κ ν : Type} (isSame : κ → κ → Bool) (key : κ) (value : ν) :
    List (κ × ν) → List (κ × ν)
  | [] => [(key, value)]
  | entry :: entries =>
      if isSame entry.1 key then
        (entry.1, value) :: entries
      else
        entry :: putEntry isSame key value entries

/-- The entries of a map that is given a list of entries one after the other:
a repeated key keeps its first position and takes its last value. -/
def mergeEntries {κ ν : Type} (isSame : κ → κ → Bool) (entries : List (κ × ν)) :
    List (κ × ν) :=
  entries.foldl (fun merged (key, value) => putEntry isSame key value merged) []

/-- The map with the given entries, of which a repeated key keeps its first
position and takes its last value. -/
def Value.ofEntries (entries : List (Value × Value)) : Value :=
  .map (mergeEntries Value.isSameKey entries)

end UsageContracts
