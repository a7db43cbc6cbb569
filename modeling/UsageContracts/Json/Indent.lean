import UsageContracts.Json.Layout

/-!
# Layouts from document values

A document value can ask for a layout: null for one line, a number for so many
spaces, a text for itself.  Any document value can also be written as JSON
text: values that JSON lacks are written as their display forms.
-/

namespace UsageContracts

/-- Why a value names no layout. -/
inductive IndentFault
  /-- A value of this type is neither a number of spaces nor a text. -/
  | wrongType (typeName : Text)
  /-- The number of spaces has more than 64 bits. -/
  | tooWide
deriving DecidableEq

namespace IndentFault

/-- The wording of a fault. -/
def message : IndentFault → Text
  | .wrongType typeName => "can't multiply sequence by non-int of type '" ++ typeName ++ "'"
  | .tooWide => "cannot fit 'int' into an index-sized integer"

end IndentFault

namespace Layout

/-- The layout with the given number of spaces for each level; there are none
if the number is negative. -/
def ofSpaces (spaces : Int) : Layout :=
  .broken (List.replicate spaces.toNat (.scalar ' '))

/-- The layout that a value asks for. -/
def ofValue (value : Value) : Except IndentFault Layout :=
  match value with
  | .scalar .null => .ok .compact
  | .scalar (.bool value) => .ok (ofSpaces (if value then 1 else 0))
  | .scalar (.integer value) =>
      if value < -0x8000000000000000 ∨ 0x8000000000000000 ≤ value then
        .error .tooWide
      else
        .ok (ofSpaces value)
  | .scalar (.text unit) => .ok (.broken unit)
  | value => .error (.wrongType value.layer.typeName)

end Layout

/-- Why a document value is not written as JSON text. -/
inductive JsonFault
  /-- A number in it is too long. -/
  | numeral (fault : NumeralFault)
  /-- A key in it has a type that JSON does not write as a name. -/
  | key (typeName : Text)
deriving DecidableEq

namespace JsonFault

/-- The wording of a fault. -/
def message : JsonFault → Text
  | .numeral fault => fault.message
  | .key typeName => "keys must be str, int, float, bool or None, not " ++ typeName

end JsonFault

namespace Value

/-- The JSON value of a scalar.  Those that JSON lacks become their display
forms. -/
def scalarJson (content : Scalar) : Except JsonFault Json :=
  match content with
  | .null => .ok .null
  | .bool value => .ok (.bool value)
  | .integer value =>
      match integerText value with
      | .ok _ => .ok (.integer value)
      | .error fault => .error (.numeral fault)
  | .float value => .ok (.float value)
  | other =>
      match other.display with
      | .ok text => .ok (.text text)
      | .error fault => .error (.numeral fault)

/-- The member name of a map's key. -/
def keyName (key : Value) : Except JsonFault Text :=
  match key with
  | .scalar (.text name) => .ok name
  | .scalar .null => .ok "null"
  | .scalar (.bool value) => .ok (if value then "true" else "false")
  | .scalar (.float value) => .ok (Json.floatText value)
  | .scalar (.integer value) => (integerText value).mapError .numeral
  | key => .error (.key key.layer.typeName)

mutual

/-- The JSON value of a document value.  A set becomes its display form. -/
def toJson : Value → Except JsonFault Json
  | .scalar content => scalarJson content
  | .list items => .list <$> itemJsons items
  | .tuple items => .list <$> itemJsons items
  | .set members =>
      match Value.quoted (.set members) with
      | .ok text => .ok (.text text)
      | .error fault => .error (.numeral fault)
  | .map entries => .object <$> entryJsons entries
termination_by structural value => value

/-- The JSON values of the items of a collection. -/
def itemJsons : List Value → Except JsonFault (List Json)
  | [] => .ok []
  | item :: items => return (← toJson item) :: (← itemJsons items)
termination_by structural items => items

/-- The members for the entries of a map. -/
def entryJsons : List (Value × Value) → Except JsonFault (List (Text × Json))
  | [] => .ok []
  | entry :: entries => return (← entryJson entry) :: (← entryJsons entries)
termination_by structural entries => entries

/-- The member for an entry of a map. -/
def entryJson : Value × Value → Except JsonFault (Text × Json)
  | (key, value) => return (← keyName key, ← toJson value)
termination_by structural entry => entry

end

end Value

end UsageContracts
