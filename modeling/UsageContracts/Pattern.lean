import UsageContracts.Text.Basic

/-!
# The catalogue of patterns

The usage-control patterns that a contract can follow, and the answer for a
contract that follows none of them.
-/

namespace UsageContracts

/-- What a contract is recognised as. -/
inductive Pattern
  | provideAccess
  | prohibitAccess
  | nTimesUsage
  | durationUsage
  | usageDuringInterval
  | usageUntilDeletion
  | usageLogging
  | usageNotification
  | notRecognized
deriving DecidableEq

namespace Pattern

/-- The patterns in the order of the catalogue, the missing one last. -/
def all : List Pattern :=
  [ .provideAccess, .prohibitAccess, .nTimesUsage, .durationUsage, .usageDuringInterval,
    .usageUntilDeletion, .usageLogging, .usageNotification, .notRecognized ]

/-- The patterns that a contract can follow. -/
def concrete : List Pattern :=
  all.filter (· ≠ .notRecognized)

/-- The canonical name of a pattern. -/
def name : Pattern → Text
  | .provideAccess => "PROVIDE_ACCESS"
  | .prohibitAccess => "PROHIBIT_ACCESS"
  | .nTimesUsage => "N_TIMES_USAGE"
  | .durationUsage => "DURATION_USAGE"
  | .usageDuringInterval => "USAGE_DURING_INTERVAL"
  | .usageUntilDeletion => "USAGE_UNTIL_DELETION"
  | .usageLogging => "USAGE_LOGGING"
  | .usageNotification => "USAGE_NOTIFICATION"
  | .notRecognized => "NOT_RECOGNIZED"

/-- The hyphenated name of a pattern in lower case. -/
def slug : Pattern → Text
  | .provideAccess => "provide-access"
  | .prohibitAccess => "prohibit-access"
  | .nTimesUsage => "n-times-usage"
  | .durationUsage => "duration-usage"
  | .usageDuringInterval => "usage-during-interval"
  | .usageUntilDeletion => "usage-until-deletion"
  | .usageLogging => "usage-logging"
  | .usageNotification => "usage-notification"
  | .notRecognized => "not-recognized"

/-- The pattern with the given canonical name. -/
def ofName? (name : Text) : Option Pattern :=
  all.find? (·.name = name)

end Pattern

end UsageContracts
