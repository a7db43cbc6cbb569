import UsageContracts.Settings.Basic

/-!
# Reading settings

Settings are read from a map with up to three sections, each of which is a map
from the names of its settings to their values.  A setting that is not given
has its default.  Sections are read in a fixed order, so that the first section
with a fault is the one that is reported.
-/

namespace UsageContracts

/-- The sections of settings, in the order in which they are read. -/
inductive SettingsSection
  | logging
  | service
  | output
deriving DecidableEq

namespace SettingsSection

/-- The key of a section. -/
def key : SettingsSection → Text
  | .logging => "logging"
  | .service => "api"
  | .output => "output"

/-- What the settings of a section are called together. -/
def title : SettingsSection → Text
  | .logging => "LoggingConfig"
  | .service => "APIConfig"
  | .output => "OutputConfig"

/-- The names of the settings in a section. -/
def settingNames : SettingsSection → List Text
  | .logging => ["level", "file"]
  | .service => ["host", "port", "cors_enabled", "cors_origins"]
  | .output => ["indent"]

end SettingsSection

/-- Why a section gives no settings. -/
inductive SectionFault
  /-- The section is no map but has this type. -/
  | notAMap (typeName : Text)
  /-- A key of the section is no text. -/
  | keyNotText
  /-- A key of the section is the name that settings have for themselves. -/
  | reservedKey
  /-- A key of the section is no name of a setting. -/
  | unknownKey (key : Text)
deriving DecidableEq

/-- Why a document gives no settings. -/
inductive SettingsFault
  /-- The document is no map but has this type. -/
  | notAMap (typeName : Text)
  | inSection (which : SettingsSection) (fault : SectionFault)
deriving DecidableEq

namespace SettingsFault

/-- The wording of a fault. -/
def message : SettingsFault → Text
  | .notAMap typeName => "'" ++ typeName ++ "' object has no attribute 'get'"
  | .inSection which (.notAMap typeName) =>
      "usagecontrol.config." ++ which.title ++
        "() argument after ** must be a mapping, not " ++ typeName
  | .inSection _ .keyNotText => "keywords must be strings"
  | .inSection which .reservedKey =>
      which.title ++ ".__init__() got multiple values for argument 'self'"
  | .inSection which (.unknownKey key) =>
      which.title ++ ".__init__() got an unexpected keyword argument '" ++ key ++ "'"

end SettingsFault

/-- The text that a key is. -/
def textKey? : Value → Option Text
  | .scalar (.text key) => some key
  | _ => none

namespace SettingsSection

/-- The fault of a text as the key of a setting. -/
def keyFault? (which : SettingsSection) (key : Text) : Option SectionFault :=
  if which.settingNames.contains key then none
  else if key = "self" then some .reservedKey
  else some (.unknownKey key)

/-- The fault in the keys of a section.  That all keys are texts is checked
first. -/
def keysFault? (which : SettingsSection) (keys : List Value) : Option SectionFault :=
  match keys.mapM textKey? with
  | none => some .keyNotText
  | some names => names.findSome? which.keyFault?

/-- The entries of a section in a document; a section that is not there has
none. -/
def entries (which : SettingsSection) (document : List (Value × Value)) :
    Except SectionFault (List (Value × Value)) :=
  match View.find? Value.view document which.key with
  | none => .ok []
  | some (.map entries) =>
      match which.keysFault? (entries.map (·.1)) with
      | none => .ok entries
      | some fault => .error fault
  | some value => .error (.notAMap value.layer.typeName)

/-- The entries of a section, with the fault that names the section. -/
def entriesOrFault (which : SettingsSection) (document : List (Value × Value)) :
    Except SettingsFault (List (Value × Value)) :=
  (which.entries document).mapError (.inSection which)

end SettingsSection

/-- The setting with the given name, or its default. -/
def settingOr (entries : List (Value × Value)) (name : Text) (default : Value) : Value :=
  (View.find? Value.view entries name).getD default

namespace LoggingSettings

/-- The settings of the section on logging.  A null log level is as good as
none. -/
def ofEntries (environment : Option Text) (entries : List (Value × Value)) : LoggingSettings :=
  let level := settingOr entries "level" .null
  { level := if level.layer.isNull then defaultLogLevel environment else level
    file := settingOr entries "file" .null }

end LoggingSettings

namespace ServiceSettings

/-- The settings of the section on the service. -/
def ofEntries (entries : List (Value × Value)) : ServiceSettings :=
  let defaults : ServiceSettings := {}
  { host := settingOr entries "host" defaults.host
    port := settingOr entries "port" defaults.port
    allowsOrigins := settingOr entries "cors_enabled" defaults.allowsOrigins
    origins := settingOr entries "cors_origins" defaults.origins }

end ServiceSettings

namespace OutputSettings

/-- The settings of the section on output. -/
def ofEntries (entries : List (Value × Value)) : OutputSettings :=
  let defaults : OutputSettings := {}
  { indent := settingOr entries "indent" defaults.indent }

end OutputSettings

namespace Settings

/-- The settings that the entries of a document give. -/
def ofEntries (environment : Option Text) (document : List (Value × Value)) :
    Except SettingsFault Settings := do
  let logging ← SettingsSection.entriesOrFault .logging document
  let service ← SettingsSection.entriesOrFault .service document
  let output ← SettingsSection.entriesOrFault .output document
  return {
    logging := .ofEntries environment logging
    service := .ofEntries service
    output := .ofEntries output }

/-- The settings that a document gives, in an environment that may give a log
level. -/
def ofValue (environment : Option Text) (document : Value) : Except SettingsFault Settings :=
  match document with
  | .map entries => ofEntries environment entries
  | value => .error (.notAMap value.layer.typeName)

end Settings

end UsageContracts
