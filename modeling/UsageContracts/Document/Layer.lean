import UsageContracts.Document.Scalar

/-!
# Layers and views

A layer is what a document value shows from outside: a scalar, or a collection
of further values that are not looked into.  A view presents the values of a
type by their layers.  Trees and graphs of values have views, and whatever
reads a document reads it through a view.
-/

namespace UsageContracts

universe u v

/-- The outermost layer of a value, over the type of the values inside it. -/
inductive Layer (α : Type u) : Type u
  | scalar (content : Scalar)
  | list (items : List α)
  | tuple (items : List α)
  /-- A set, with its members in the order in which they are gone through. -/
  | set (members : List α)
  | map (entries : List (α × α))

namespace Layer

variable {α : Type u} {β : Type v}

/-- The name of a value's type. -/
def typeName : Layer α → Text
  | .scalar content => content.typeName
  | .list _ => "list"
  | .tuple _ => "tuple"
  | .set _ => "set"
  | .map _ => "dict"

/-- Whether a value counts as true.  A collection does unless it is empty. -/
def isTruthy : Layer α → Bool
  | .scalar content => content.isTruthy
  | .list items => !items.isEmpty
  | .tuple items => !items.isEmpty
  | .set members => !members.isEmpty
  | .map entries => !entries.isEmpty

/-- Whether a value is null. -/
def isNull : Layer α → Bool
  | .scalar .null => true
  | _ => false

/-- Whether a value is a collection. -/
def isCollection : Layer α → Bool
  | .scalar _ => false
  | _ => true

/-- Apply a function to the values inside a layer. -/
def mapInner (f : α → β) : Layer α → Layer β
  | .scalar content => .scalar content
  | .list items => .list (items.map f)
  | .tuple items => .tuple (items.map f)
  | .set members => .set (members.map f)
  | .map entries => .map (entries.map fun (key, value) => (f key, f value))

/-- Apply a function that can fail to the values inside a layer. -/
def traverse {ε : Type} {β : Type} (f : α → Except ε β) : Layer α → Except ε (Layer β)
  | .scalar content => .ok (.scalar content)
  | .list items => .list <$> items.mapM f
  | .tuple items => .tuple <$> items.mapM f
  | .set members => .set <$> members.mapM f
  | .map entries => .map <$> entries.mapM fun (key, value) => return (← f key, ← f value)

/-- The text of a collection that is left out because it stands inside itself. -/
def cutOff : Layer α → Text
  | .scalar _ => []
  | .list _ => "[...]"
  | .tuple _ => "(...)"
  | .set _ => "set(...)"
  | .map _ => "\x7b...\x7d"

/-- The quoted form of a value, given those of the values inside it. -/
def quoted : Layer Text → Except NumeralFault Text
  | .scalar content => content.quoted
  | .list items => .ok ("[" ++ Text.join ", " items ++ "]")
  | .tuple [item] => .ok ("(" ++ item ++ ",)")
  | .tuple items => .ok ("(" ++ Text.join ", " items ++ ")")
  | .set [] => .ok "set()"
  | .set members => .ok ("\x7b" ++ Text.join ", " members ++ "\x7d")
  | .map entries =>
      let written := entries.map fun (key, value) => key ++ ": " ++ value
      .ok ("\x7b" ++ Text.join ", " written ++ "\x7d")

end Layer

/-- A way to look at the values of a type: the outermost layer of each, and its
quoted form. -/
structure View (α : Type u) where
  layer : α → Layer α
  quoted : α → Except NumeralFault Text

namespace View

variable {α : Type u} (view : View α)

/-- The display form of a value: that of a scalar, and the quoted form of a
collection. -/
def display (value : α) : Except NumeralFault Text :=
  match view.layer value with
  | .scalar content => content.display
  | _ => view.quoted value

/-- Whether a value is the given text. -/
def isText (text : Text) (value : α) : Bool :=
  match view.layer value with
  | .scalar (.text content) => content == text
  | _ => false

/-- The value that the entries of a map give to a text. -/
def find? (entries : List (α × α)) (key : Text) : Option α :=
  (entries.find? fun entry => view.isText key entry.1).map (·.2)

end View

end UsageContracts
