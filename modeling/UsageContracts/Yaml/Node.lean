import UsageContracts.Yaml.Tag
import UsageContracts.Yaml.Token

/-!
# Nodes

A document is a table of nodes: scalars, lists and maps with their tags, which
refer to each other by their place in the table.  An alias is one more
reference to a node, so the nodes form a graph, which can have cycles.  The
table is built from the tokens of a text.
-/

namespace UsageContracts.Yaml

/-- The place of a node in its table. -/
abbrev NodeId := Nat

/-- A node. -/
inductive Node
  | scalar (tag : Tag) (content : Text)
  | list (tag : Tag) (items : List NodeId)
  | map (tag : Tag) (entries : List (NodeId × NodeId))
deriving DecidableEq

/-! ## Properties of nodes -/

/-- What stands before the content of a node. -/
structure NodeProperties where
  anchor : Option (List Char) := none
  /-- The full name of the tag. -/
  tag : Option (List Char) := none
deriving DecidableEq

namespace NodeProperties

/-- Whether nothing stands before the content of a node. -/
def isEmpty (properties : NodeProperties) : Bool :=
  properties.anchor.isNone && properties.tag.isNone

/-- The tag of a scalar.  Without a tag of its own a plain scalar has the tag of
its form and any other is a text; an exclamation mark alone asks for the tag of
the form. -/
def scalarTag (properties : NodeProperties) (content : Text) (isPlain : Bool) : Tag :=
  match properties.tag with
  | none => if isPlain then .ofText content else .text
  | some ['!'] => .ofText content
  | some name => .ofName name

/-- The tag of a collection, by default the given one. -/
def collectionTag (properties : NodeProperties) (default : Tag) : Tag :=
  match properties.tag with
  | none => default
  | some ['!'] => default
  | some name => .ofName name

end NodeProperties

/-! ## Directives -/

/-- What tag handles stand for. -/
abbrev TagHandles := List (List Char × List Char)

/-- The handles that need no directive. -/
def defaultHandles : TagHandles :=
  [(['!'], ['!']), (['!', '!'], Tag.namespaceName)]

/-- The fault of a text in which something else than the given tokens was
expected. -/
def unexpected : List Token → Fault
  | .broken fault :: _ => fault
  | _ => .form

/-- Read the directives ahead of a document: at most one version, which has to
be the first major one, and handles that differ from each other. -/
def readDirectives (hasVersion : Bool) (handles : TagHandles) :
    List Token → Except Fault (TagHandles × List Token)
  | .directive directive :: rest =>
      match directive with
      | .version major =>
          if hasVersion || major != 1 then .error .form else readDirectives true handles rest
      | .tagHandle handle expansion =>
          if (handles.lookup handle).isSome then .error .form
          else readDirectives hasVersion ((handle, expansion) :: handles) rest
      | .other => readDirectives hasVersion handles rest
  | tokens => .ok (handles ++ defaultHandles, tokens)

/-! ## Building the table -/

/-- What has been built from the tokens so far. -/
structure NodeReader where
  handles : TagHandles
  tokens : List Token
  nodes : Array Node := #[]
  /-- The nodes that anchors name. -/
  anchors : List (List Char × NodeId) := []

namespace NodeReader

/-- Go on with other tokens. -/
def goOn (reader : NodeReader) (tokens : List Token) : NodeReader :=
  { reader with tokens }

/-- Add a node, to which an anchor may give a name. -/
def add (reader : NodeReader) (anchor : Option (List Char)) (node : Node) :
    NodeId × NodeReader :=
  let id := reader.nodes.size
  let named := match anchor with
    | none => reader.anchors
    | some name => (name, id) :: reader.anchors
  (id, { reader with nodes := reader.nodes.push node, anchors := named })

/-- Fill in a node that was added before its parts. -/
def define (reader : NodeReader) (id : NodeId) (node : Node) : NodeReader :=
  { reader with nodes := reader.nodes.setIfInBounds id node }

/-- Whether an anchor names a node already. -/
def isNamed (reader : NodeReader) (name : List Char) : Bool :=
  (reader.anchors.lookup name).isSome

/-- Add the empty scalar, which is null. -/
def addNull (reader : NodeReader) : NodeId × NodeReader :=
  reader.add none (.scalar .null [])

/-- The full name of a tag. -/
def expandTag (reader : NodeReader) (tag : TagName) : Except Fault (List Char) :=
  match tag.handle with
  | none => .ok tag.suffix
  | some handle =>
      match reader.handles.lookup handle with
      | some expansion => .ok (expansion ++ tag.suffix)
      | none => .error .form

/-- Read what stands before the content of a node: an anchor and a tag, in
either order. -/
def readProperties (reader : NodeReader) : Except Fault (NodeProperties × NodeReader) := do
  let (anchor, tag?, rest) : Option (List Char) × Option TagName × List Token :=
    match reader.tokens with
    | .anchor name :: .tag tag :: rest => (some name, some tag, rest)
    | .anchor name :: rest => (some name, none, rest)
    | .tag tag :: .anchor name :: rest => (some name, some tag, rest)
    | .tag tag :: rest => (none, some tag, rest)
    | tokens => (none, none, tokens)
  if let .broken fault :: _ := rest then
    throw fault
  let tag ←
    match tag? with
    | none => pure none
    | some tag => some <$> reader.expandTag tag
  return ({ anchor, tag }, reader.goOn rest)

/-- Where a node stands, which decides what it may begin with. -/
inductive NodePlace
  /-- Between brackets. -/
  | inBrackets
  /-- In a block. -/
  | inBlock
  /-- In a block, as a key or a value, where a list needs no indentation. -/
  | inEntry
deriving DecidableEq

/-- Whether the next token is one of those given. -/
def isAt (reader : NodeReader) (tokens : List Token) : Bool :=
  reader.tokens.head?.any tokens.contains

mutual

/-- Read a node with what stands before it.  No two nodes have the same anchor. -/
def readNode : Nat → NodePlace → NodeReader → Except Fault (NodeId × NodeReader)
  | 0, _, _ => .error .form
  | fuel + 1, place, reader =>
      match reader.tokens with
      | .alias name :: rest =>
          match reader.anchors.lookup name with
          | some id => .ok (id, reader.goOn rest)
          | none => .error .form
      | _ => do
          let (properties, reader) ← reader.readProperties
          if properties.anchor.any reader.isNamed then
            throw .form
          else
            readContent fuel place properties reader

/-- Read the content of a node. -/
def readContent : Nat → NodePlace → NodeProperties → NodeReader →
    Except Fault (NodeId × NodeReader)
  | 0, _, _, _ => .error .form
  | fuel + 1, place, properties, reader =>
      let listTag := properties.collectionTag .list
      let mapTag := properties.collectionTag .map
      match reader.tokens, place with
      | .scalar content isPlain :: rest, _ =>
          .ok <| (reader.goOn rest).add properties.anchor
            (.scalar (properties.scalarTag content isPlain) content)
      | .openList :: rest, _ => do
          let (id, reader) := (reader.goOn rest).add properties.anchor (.list listTag [])
          let (items, reader) ← readBracketItems fuel true reader
          return (id, reader.define id (.list listTag items))
      | .openMap :: rest, _ => do
          let (id, reader) := (reader.goOn rest).add properties.anchor (.map mapTag [])
          let (entries, reader) ← readBracketEntries fuel true reader
          return (id, reader.define id (.map mapTag entries))
      | .beginItems :: rest, .inBlock | .beginItems :: rest, .inEntry => do
          let (id, reader) := (reader.goOn rest).add properties.anchor (.list listTag [])
          let (items, reader) ← readItems fuel true reader
          return (id, reader.define id (.list listTag items))
      | .beginEntries :: rest, .inBlock | .beginEntries :: rest, .inEntry => do
          let (id, reader) := (reader.goOn rest).add properties.anchor (.map mapTag [])
          let (entries, reader) ← readEntries fuel reader
          return (id, reader.define id (.map mapTag entries))
      | .dash :: _, .inEntry => do
          let (id, reader) := reader.add properties.anchor (.list listTag [])
          let (items, reader) ← readItems fuel false reader
          return (id, reader.define id (.list listTag items))
      | tokens, _ =>
          if properties.isEmpty then
            .error (unexpected tokens)
          else
            .ok <| reader.add properties.anchor (.scalar (properties.scalarTag [] true) [])

/-- Read the items of a list with dashes, up to the end of its block, or up to
something else than a dash if it has no indentation of its own. -/
def readItems : Nat → Bool → NodeReader → Except Fault (List NodeId × NodeReader)
  | 0, _, _ => .error .form
  | fuel + 1, isIndented, reader =>
      match reader.tokens with
      | .dash :: rest => do
          let reader := reader.goOn rest
          let ends : List Token :=
            if isIndented then [.dash, .endBlock] else [.dash, .key, .value, .endBlock]
          let (item, reader) ←
            if reader.isAt ends then .ok reader.addNull else readNode fuel .inBlock reader
          let (items, reader) ← readItems fuel isIndented reader
          return (item :: items, reader)
      | tokens =>
          if isIndented then
            match tokens with
            | .endBlock :: rest => .ok ([], reader.goOn rest)
            | tokens => .error (unexpected tokens)
          else
            .ok ([], reader)

/-- Read the entries of a map on lines of their own, up to the end of its
block. -/
def readEntries : Nat → NodeReader → Except Fault (List (NodeId × NodeId) × NodeReader)
  | 0, _ => .error .form
  | fuel + 1, reader =>
      match reader.tokens with
      | .key :: rest => do
          let reader := reader.goOn rest
          let ends : List Token := [.key, .value, .endBlock]
          let (key, reader) ←
            if reader.isAt ends then .ok reader.addNull else readNode fuel .inEntry reader
          let (value, reader) ← readValue fuel .inEntry ends reader
          let (entries, reader) ← readEntries fuel reader
          return ((key, value) :: entries, reader)
      | .endBlock :: rest => .ok ([], reader.goOn rest)
      | tokens => .error (unexpected tokens)

/-- Read the value after a key, which is null if there is none. -/
def readValue : Nat → NodePlace → List Token → NodeReader →
    Except Fault (NodeId × NodeReader)
  | 0, _, _, _ => .error .form
  | fuel + 1, place, ends, reader =>
      match reader.tokens with
      | .value :: rest =>
          let reader := reader.goOn rest
          if reader.isAt ends then .ok reader.addNull else readNode fuel place reader
      | _ => .ok reader.addNull

/-- Read the items of a list up to its closing bracket.  An item with a colon is
a map with one entry. -/
def readBracketItems : Nat → Bool → NodeReader → Except Fault (List NodeId × NodeReader)
  | 0, _, _ => .error .form
  | fuel + 1, isFirst, reader =>
      match reader.tokens with
      | .closeList :: rest => .ok ([], reader.goOn rest)
      | tokens => do
          let reader ←
            if isFirst then
              .ok reader
            else
              match tokens with
              | .comma :: rest => .ok (reader.goOn rest)
              | tokens => .error (unexpected tokens)
          match reader.tokens with
          | .closeList :: rest => return ([], reader.goOn rest)
          | .key :: rest =>
              let (id, reader) := (reader.goOn rest).add none (.map .map [])
              let (key, reader) ←
                if reader.isAt [.value, .comma, .closeList] then .ok reader.addNull
                else readNode fuel .inBrackets reader
              let (value, reader) ← readValue fuel .inBrackets [.comma, .closeList] reader
              let reader := reader.define id (.map .map [(key, value)])
              let (items, reader) ← readBracketItems fuel false reader
              return (id :: items, reader)
          | _ =>
              let (item, reader) ← readNode fuel .inBrackets reader
              let (items, reader) ← readBracketItems fuel false reader
              return (item :: items, reader)

/-- Read the entries of a map up to its closing bracket.  An entry without a
colon has the value null. -/
def readBracketEntries : Nat → Bool → NodeReader →
    Except Fault (List (NodeId × NodeId) × NodeReader)
  | 0, _, _ => .error .form
  | fuel + 1, isFirst, reader =>
      match reader.tokens with
      | .closeMap :: rest => .ok ([], reader.goOn rest)
      | tokens => do
          let reader ←
            if isFirst then
              .ok reader
            else
              match tokens with
              | .comma :: rest => .ok (reader.goOn rest)
              | tokens => .error (unexpected tokens)
          match reader.tokens with
          | .closeMap :: rest => return ([], reader.goOn rest)
          | .key :: rest =>
              let reader := reader.goOn rest
              let (key, reader) ←
                if reader.isAt [.value, .comma, .closeMap] then .ok reader.addNull
                else readNode fuel .inBrackets reader
              let (value, reader) ← readValue fuel .inBrackets [.comma, .closeMap] reader
              let (entries, reader) ← readBracketEntries fuel false reader
              return ((key, value) :: entries, reader)
          | _ =>
              let (key, reader) ← readNode fuel .inBrackets reader
              let (value, reader) := reader.addNull
              let (entries, reader) ← readBracketEntries fuel false reader
              return ((key, value) :: entries, reader)

end

/-- Read a node.  Every step into it takes a token or leads to a step that does,
so three steps for each token suffice. -/
def node (place : NodePlace) (reader : NodeReader) : Except Fault (NodeId × NodeReader) :=
  readNode (3 * reader.tokens.length + 3) place reader

end NodeReader

/-! ## Documents -/

/-- A table of nodes and the node that is the whole document. -/
structure NodeDocument where
  nodes : Array Node
  root : NodeId

/-- Check that nothing follows a document. -/
def checkEnd (tokens : List Token) : Except Fault Unit := do
  match tokens.dropWhile (· == .endMarker) with
  | .endOfText :: _ => return ()
  | tokens =>
      let (_, rest) ← readDirectives false [] tokens
      throw (unexpected rest)

/-- The document that tokens make up, if there is one. -/
def NodeDocument.ofTokens (tokens : List Token) : Except Fault (Option NodeDocument) := do
  match tokens with
  | .endOfText :: _ => return none
  | .directive _ :: _ | .startMarker :: _ =>
      let (handles, rest) ← readDirectives false [] tokens
      match rest with
      | .startMarker :: rest =>
          let reader : NodeReader := { handles, tokens := rest }
          let isEmpty := match rest with
            | .directive _ :: _ | .startMarker :: _ | .endMarker :: _ | .endOfText :: _ => true
            | _ => false
          let (root, reader) ← if isEmpty then .ok reader.addNull else reader.node .inBlock
          checkEnd reader.tokens
          return some { nodes := reader.nodes, root }
      | tokens => throw (unexpected tokens)
  | tokens =>
      let reader : NodeReader := { handles := defaultHandles, tokens }
      let (root, reader) ← reader.node .inBlock
      checkEnd reader.tokens
      return some { nodes := reader.nodes, root }

end UsageContracts.Yaml
