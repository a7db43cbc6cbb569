import UsageContracts.Log.Record
import UsageContracts.Settings.Basic
import UsageContracts.Text.LetterCase

/-!
# Thresholds of logs

The settings name the gravity from which on records are written.  Every name is
accepted in any letter case, and an unknown one stands for information.
-/

namespace UsageContracts

/-- Why settings give no threshold. -/
inductive ThresholdFault
  /-- A value of this type is no name. -/
  | notAName (typeName : Text)
  /-- The name is not of text but of bytes. -/
  | bytes
  /-- The name is that of a format and not of a level. -/
  | format
  /-- The name is that of the table of formats. -/
  | styles
deriving DecidableEq

/-- The format that goes by a name among those of the levels. -/
def basicLogFormat : Text :=
  "%(levelname)s:%(name)s:%(message)s"

/-- The wording of the table of formats, which has such a name too. -/
def logStyles : Text :=
  "\x7b'%': (<class 'logging.PercentStyle'>, " ++ basicLogFormat.quoted ++
    "), '\x7b': (<class 'logging.StrFormatStyle'>, " ++
    "'\x7blevelname\x7d:\x7bname\x7d:\x7bmessage\x7d'), " ++
    "'$': (<class 'logging.StringTemplateStyle'>, " ++
    "'$\x7blevelname\x7d:$\x7bname\x7d:$\x7bmessage\x7d')\x7d"

namespace ThresholdFault

/-- The wording of a fault. -/
def message : ThresholdFault → Text
  | .notAName typeName => "'" ++ typeName ++ "' object has no attribute 'upper'"
  | .bytes => "attribute name must be string, not 'bytes'"
  | .format => "Unknown level: " ++ basicLogFormat.quoted
  | .styles => "Level not an integer or a valid string: " ++ logStyles

end ThresholdFault

/-- What a name in upper case stands for. -/
inductive LevelName
  | level (rank : Nat)
  /-- Something that is no level. -/
  | noLevel (fault : ThresholdFault)
deriving DecidableEq

namespace LevelName

/-- The levels by their names in upper case. -/
def levels : List (Text × Nat) :=
  [ ("CRITICAL", 50), ("FATAL", 50), ("ERROR", 40), ("WARN", 30), ("WARNING", 30),
    ("INFO", 20), ("DEBUG", 10), ("NOTSET", 0) ]

/-- What a name in upper case stands for. -/
def ofText (name : Text) : LevelName :=
  if name = "BASIC_FORMAT" then .noLevel .format
  else if name = "_STYLES" then .noLevel .styles
  else .level ((levels.lookup name).getD 20)

end LevelName

namespace LoggingSettings

/-- What the level in the settings stands for.  Verbose runs log everything, and
a level that counts as false stands for information. -/
def levelName (settings : LoggingSettings) (isVerbose : Bool) :
    Except ThresholdFault LevelName :=
  if isVerbose then
    .ok (.ofText "DEBUG")
  else if !settings.level.layer.isTruthy then
    .ok (.ofText "INFO")
  else
    match settings.level with
    | .scalar (.text name) => .ok (.ofText name.upper)
    | .scalar (.bytes _) => .error .bytes
    | value => .error (.notAName value.layer.typeName)

end LoggingSettings

end UsageContracts
