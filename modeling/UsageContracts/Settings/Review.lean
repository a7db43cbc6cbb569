import UsageContracts.Settings.Basic

/-!
# Reviewing settings

A review tells which settings cannot be used: the log level has to be one of
four names, the port a number of a port, and the indentation must not be
negative.  Values that cannot be compared end a review.
-/

namespace UsageContracts

/-- What is wrong with a setting.  Its value is given in display form. -/
inductive SettingsProblem
  | logLevel (value : Text)
  | port (value : Text)
  | indent (value : Text)
deriving DecidableEq

namespace SettingsProblem

/-- The wording of a problem. -/
def message : SettingsProblem → Text
  | .logLevel value => "Invalid log level: " ++ value
  | .port value => "Invalid API port: " ++ value
  | .indent value => "Invalid output indent: " ++ value

end SettingsProblem

/-- Why a review is not finished. -/
inductive ReviewFault
  /-- A value of this type is not looked up among names. -/
  | notLookedUp (typeName : Text)
  /-- Values of these types are not compared. -/
  | notCompared (relation left right : Text)
  /-- A value cannot be written down. -/
  | numeral (fault : NumeralFault)
deriving DecidableEq

namespace ReviewFault

/-- The wording of a fault. -/
def message : ReviewFault → Text
  | .notLookedUp typeName => "unhashable type: '" ++ typeName ++ "'"
  | .notCompared relation left right =>
      "'" ++ relation ++ "' not supported between instances of '" ++ left ++
        "' and '" ++ right ++ "'"
  | .numeral fault => fault.message

end ReviewFault

/-! ## Numbers and names -/

namespace Value

/-- The place on the number line of a value that is a number or a truth value.
What is not a number at all has a type that counts as one but no place. -/
def magnitude? : Value → Option (Option Scalar.Magnitude)
  | .scalar (.float .nan) => some none
  | .scalar content => content.magnitude?.map some
  | _ => none

mutual

/-- The type of the first part of a value that keeps it from being looked up:
a list, a map or a set. -/
def changeable? : Value → Option Text
  | .scalar _ => none
  | .list _ => some "list"
  | .tuple items => firstChangeable? items
  | .set _ => some "set"
  | .map _ => some "dict"
termination_by structural value => value

/-- The type of the first part of a list's items that keeps them from being
looked up. -/
def firstChangeable? : List Value → Option Text
  | [] => none
  | item :: items => (changeable? item).or (firstChangeable? items)
termination_by structural items => items

end

end Value

namespace Scalar.Magnitude

/-- Whether a place on the number line is that of the given integer or comes
after it. -/
def isAtLeast (bound : Int) : Scalar.Magnitude → Bool
  | .value number => (bound : Rat) ≤ number
  | .infinite negative => !negative

/-- Whether a place on the number line is that of the given integer or comes
before it. -/
def isAtMost (bound : Int) : Scalar.Magnitude → Bool
  | .value number => number ≤ (bound : Rat)
  | .infinite negative => negative

end Scalar.Magnitude

/-! ## The review -/

/-- The problem with the given wording of a value, unless the value is good. -/
def problemUnless (isGood : Bool) (problem : Text → SettingsProblem) (value : Value) :
    Except ReviewFault (List SettingsProblem) :=
  if isGood then
    .ok []
  else
    match Value.view.display value with
    | .ok text => .ok [problem text]
    | .error fault => .error (.numeral fault)

/-- The names of the log levels that settings may give. -/
def logLevelNames : List Text :=
  ["debug", "info", "warning", "error"]

/-- Whether a value is the name of a log level.  A set is looked up as a value
that is none of the names. -/
def isLogLevelName : Value → Except ReviewFault Bool
  | .scalar (.text name) => .ok (logLevelNames.contains name)
  | .set _ => .ok false
  | value =>
      match value.changeable? with
      | some typeName => .error (.notLookedUp typeName)
      | none => .ok false

/-- Whether a value is a number from the first port to the last one. -/
def isPort (value : Value) : Except ReviewFault Bool :=
  match value.magnitude? with
  | some (some place) => .ok (place.isAtLeast 1 && place.isAtMost 65535)
  | some none => .ok false
  | none => .error (.notCompared "<=" "int" value.layer.typeName)

/-- Whether a value is null or a number that is not negative. -/
def isIndent (value : Value) : Except ReviewFault Bool :=
  if value.layer.isNull then
    .ok true
  else
    match value.magnitude? with
    | some (some place) => .ok (place.isAtLeast 0)
    | some none => .ok true
    | none => .error (.notCompared "<" value.layer.typeName "int")

namespace Settings

/-- The problems with the settings, in a fixed order. -/
def review (settings : Settings) : Except ReviewFault (List SettingsProblem) := do
  let level := settings.logging.level
  let port := settings.service.port
  let indent := settings.output.indent
  let ofLevel ← problemUnless (← isLogLevelName level) .logLevel level
  let ofPort ← problemUnless (← isPort port) .port port
  let ofIndent ← problemUnless (← isIndent indent) .indent indent
  return ofLevel ++ ofPort ++ ofIndent

end Settings

end UsageContracts
