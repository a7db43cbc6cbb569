import UsageContracts.Yaml.Fault

/-!
# Tokens

The tokens of a YAML text.  Blocks that are marked by indentation have tokens
for their beginning and their end, and a simple key has a token before it, so
that the structure of a document can be read off without looking at columns.
-/

namespace UsageContracts.Yaml

/-- An instruction ahead of a document. -/
inductive Directive
  /-- The major version of the format. -/
  | version (major : Nat)
  /-- The expansion of a tag handle. -/
  | tagHandle (handle : List Char) (expansion : List Char)
  /-- An instruction that means nothing here. -/
  | other
deriving DecidableEq

/-- A tag as it is written: with a handle to be expanded, or in full. -/
structure TagName where
  handle : Option (List Char)
  suffix : List Char
deriving DecidableEq

/-- A token. -/
inductive Token
  | directive (directive : Directive)
  /-- Three hyphens. -/
  | startMarker
  /-- Three dots. -/
  | endMarker
  /-- The beginning of a list of dashed items. -/
  | beginItems
  /-- The beginning of a map of entries on lines of their own. -/
  | beginEntries
  /-- The end of a block by a smaller indentation. -/
  | endBlock
  | openList
  | closeList
  | openMap
  | closeMap
  | comma
  | dash
  /-- What follows is a key. -/
  | key
  /-- What follows is the value of a key. -/
  | value
  | alias (name : List Char)
  | anchor (name : List Char)
  | tag (name : TagName)
  | scalar (content : Text) (isPlain : Bool)
  | endOfText
  /-- The text cannot be read any further. -/
  | broken (fault : Fault)
deriving DecidableEq

end UsageContracts.Yaml
