import UsageContracts.Text.LetterCase

/-!
# Identifiers

The terms of a contract are named by identifiers: a local name, possibly after
a prefix or a namespace that ends in `#`, `/` or `:`.
-/

namespace UsageContracts

/-- Whether a code point can end a namespace. -/
def CodePoint.isNamespaceEnd (point : CodePoint) : Bool :=
  point = '#' || point = '/' || point = ':'

/-- The code points that end namespaces, in the order in which they are looked
for. -/
def namespaceEnds : List CodePoint :=
  ['#', '/', ':']

/-- The local name of an identifier: what is left when everything up to the last
`#` is dropped, then up to the last `/`, then up to the last `:`. -/
def localName (identifier : Text) : Text :=
  namespaceEnds.foldl Text.afterLast identifier

/-- A vocabulary of coded terms, one of which stands for everything that the
vocabulary does not name. -/
class Vocabulary (α : Type) where
  /-- The terms in order. -/
  terms : List α
  /-- The local name of a term, in upper case. -/
  name : α → Text
  /-- The term for whatever has no name of its own. -/
  other : α

namespace Vocabulary

variable {α : Type} [Vocabulary α]

/-- The identifier of a term in documents. -/
def identifier (term : α) : Text :=
  "idsc:" ++ name term

/-- The term that an identifier names, whatever its namespace and letter case.
The empty identifier names nothing. -/
def ofIdentifier (identifier : Text) : α :=
  if identifier.isEmpty then
    other
  else
    let wanted := (localName identifier).upper
    (terms.find? fun term => name term == wanted).getD other

end Vocabulary

end UsageContracts
