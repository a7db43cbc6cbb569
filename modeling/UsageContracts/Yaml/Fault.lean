import UsageContracts.Calendar
import UsageContracts.Number.Numeral

/-!
# Faults of YAML text

Why a text is not read as a document.  Faults of form are not told apart;
scalars whose form is right but whose content is impossible have faults of
their own.
-/

namespace UsageContracts.Yaml

/-- Why a text is not read as a document. -/
inductive Fault
  /-- The text is not well formed, or a value does not go with its tag. -/
  | form
  /-- An escape or a directive names a number beyond the code space. -/
  | beyondCodeSpace
  /-- An escape names a number of more than 31 bits. -/
  | beyondNumbers
  /-- A number is not written as its tag demands. -/
  | numeral (fault : NumeralFault)
  /-- A number is nothing but a sign, or empty. -/
  | emptyNumeral
  /-- A number in base sixty has more places than floating point numbers can
  scale. -/
  | tooManyPlaces
  /-- A truth value has none of the names of truth values. -/
  | truthValue (name : Text)
  /-- A date or time is impossible. -/
  | calendar (fault : CalendarFault)
  /-- A text is not in the form of a date or time. -/
  | timestamp
  /-- A collection stands where a date or time should. -/
  | timestampCollection
  /-- The content of a scalar is looked for without end. -/
  | endless
deriving DecidableEq

namespace Fault

/-- The wording of a fault; for faults of form it says nothing more. -/
def message : Fault → Text
  | .form => "<yaml>"
  | .beyondCodeSpace => "chr() arg not in range(0x110000)"
  | .beyondNumbers => "Python int too large to convert to C int"
  | .numeral fault => fault.message
  | .emptyNumeral => "string index out of range"
  | .tooManyPlaces => "int too large to convert to float"
  | .truthValue name => name.quoted
  | .calendar fault => fault.message
  | .timestamp => "'NoneType' object has no attribute 'groupdict'"
  | .timestampCollection => "expected string or bytes-like object, got 'list'"
  | .endless => "maximum recursion depth exceeded"

end Fault

end UsageContracts.Yaml
