import UsageContracts.Document.Value

/-!
# Settings

What a user can set: how a run is logged, how the service is reached, and how
documents are laid out.  A setting keeps the value that a document gives it,
whatever its type is; only a review or a use of the setting looks at it.
-/

namespace UsageContracts

/-- How a run is logged. -/
structure LoggingSettings where
  level : Value
  file : Value := .null

/-- How the service is reached. -/
structure ServiceSettings where
  host : Value := .scalar (.text "127.0.0.1")
  port : Value := .scalar (.integer 8080)
  allowsOrigins : Value := .scalar (.bool true)
  origins : Value :=
    .list [.scalar (.text "http://localhost:3000"), .scalar (.text "http://127.0.0.1:3000")]

/-- How documents are laid out. -/
structure OutputSettings where
  indent : Value := .scalar (.integer 2)

/-- All settings. -/
structure Settings where
  logging : LoggingSettings
  service : ServiceSettings := {}
  output : OutputSettings := {}

/-- The log level of settings that give none: that of the environment, or that
of information. -/
def defaultLogLevel (environment : Option Text) : Value :=
  .scalar (.text (environment.getD "info"))

/-- The settings without a document. -/
def Settings.default (environment : Option Text) : Settings :=
  { logging := { level := defaultLogLevel environment } }

end UsageContracts
