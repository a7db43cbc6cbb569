import UsageContracts.Calendar
import UsageContracts.Number.Numeral
import UsageContracts.Number.Shortest
import UsageContracts.Pattern

/-!
# Scalars

The values that documents are made of besides collections.  A scalar has a
display form, which is what a reader of text sees, and a quoted form, which it
takes inside a collection.
-/

namespace UsageContracts

/-- A value that is no collection. -/
inductive Scalar
  | null
  | bool (value : Bool)
  | integer (value : Int)
  | float (value : Binary64)
  | text (value : Text)
  | bytes (value : List UInt8)
  | date (value : Date)
  | moment (value : Moment)
  | pattern (value : Pattern)
deriving DecidableEq

namespace Scalar

/-- The display form of a scalar. -/
def display : Scalar → Except NumeralFault Text
  | .null => .ok "None"
  | .bool value => .ok (if value then "True" else "False")
  | .integer value => integerText value
  | .float value => .ok value.display
  | .text value => .ok value
  | .bytes value => .ok (Text.quotedBytes value)
  | .date value => .ok value.display
  | .moment value => .ok value.display
  | .pattern value => .ok value.name

/-- The quoted form of a scalar. -/
def quoted : Scalar → Except NumeralFault Text
  | .text value => .ok value.quoted
  | .date value => .ok value.quoted
  | .moment value => .ok value.quoted
  | .pattern value => .ok ("<Pattern." ++ value.name ++ ": " ++ value.name.quoted ++ ">")
  | scalar => scalar.display

/-- The name of a scalar's type. -/
def typeName : Scalar → Text
  | .null => "NoneType"
  | .bool _ => "bool"
  | .integer _ => "int"
  | .float _ => "float"
  | .text _ => "str"
  | .bytes _ => "bytes"
  | .date _ => "datetime.date"
  | .moment _ => "datetime.datetime"
  | .pattern _ => "Pattern"

/-- Whether a scalar counts as true: null, false, zero and the empty sequences
do not. -/
def isTruthy : Scalar → Bool
  | .null => false
  | .bool value => value
  | .integer value => value != 0
  | .float value => value.value? != some 0
  | .text value => !value.isEmpty
  | .bytes value => !value.isEmpty
  | .date _ => true
  | .moment _ => true
  | .pattern _ => true

/-- A place on the number line: that of a number or of a truth value. -/
inductive Magnitude
  | value (number : Rat)
  | infinite (negative : Bool)
deriving DecidableEq

/-- The place of a scalar on the number line; truth values stand for one and
zero. -/
def magnitude? : Scalar → Option Magnitude
  | .bool value => some (.value (if value then 1 else 0))
  | .integer value => some (.value value)
  | .float (.infinite negative) => some (.infinite negative)
  | .float value => value.value?.map .value
  | _ => none

/-- Whether two scalars are the same key of a map.  Numbers are compared by
value, moments as points in time. -/
def isSameKey (left right : Scalar) : Bool :=
  match left.magnitude?, right.magnitude? with
  | some leftPlace, some rightPlace => leftPlace == rightPlace
  | some _, none => false
  | none, some _ => false
  | none, none =>
      match left, right with
      | .moment leftMoment, .moment rightMoment => leftMoment.isSame rightMoment
      | .float _, _ => false
      | _, _ => left == right

end Scalar

end UsageContracts
