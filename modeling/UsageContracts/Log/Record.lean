import UsageContracts.Text.Basic

/-!
# Log records

What a run or the service has to tell about its work.
-/

namespace UsageContracts

/-- How grave a record is. -/
inductive Gravity
  | debug
  | warning
  | error
deriving DecidableEq

/-- A record: how grave it is, where it comes from, and what it says. -/
structure LogRecord where
  gravity : Gravity
  source : Text
  message : Text
deriving DecidableEq

namespace Gravity

/-- The name of a gravity. -/
def name : Gravity → Text
  | .debug => "DEBUG"
  | .warning => "WARNING"
  | .error => "ERROR"

/-- The number by which gravities are compared with a threshold. -/
def rank : Gravity → Nat
  | .debug => 10
  | .warning => 30
  | .error => 40

end Gravity

namespace LogRecord

/-- The line of a record that is written at the given time. -/
def line (time : Text) (record : LogRecord) : Text :=
  time ++ " [" ++ record.gravity.name ++ "] " ++ record.source ++ ": " ++ record.message ++
    "\n"

end LogRecord

end UsageContracts
