import UsageContracts.CommandLine.Invocation
import UsageContracts.Contract.Example
import UsageContracts.Contract.Review
import UsageContracts.Contract.Text
import UsageContracts.Contract.Verdict
import UsageContracts.CommandLine.Output
import UsageContracts.Log.Threshold
import UsageContracts.Settings.Load
import UsageContracts.Settings.Review

/-!
# Plans of commands

What a command is going to do, once the settings are loaded and the log is
open: the records it logs, and then either a report or a fault that ends the
run.  A command changes nothing itself; a report says what is printed, which
file is written and how the service is launched.
-/

namespace UsageContracts

/-- How the service is launched. -/
structure Launch where
  host : Value
  port : Value
  level : Value
  isDebugging : Bool
  /-- The origins that may use the service, if origins are looked at. -/
  origins : Option Value

/-- What a command reports when it has done its work or told why it cannot. -/
structure Report where
  code : Nat := 0
  output : Text := []
  errors : Text := []
  /-- The file that is written before anything is printed. -/
  file : Option (Path × Text) := none
  launch : Option Launch := none

/-- Why a document is not read as a contract. -/
inductive DocumentFault
  | missing (path : Path)
  | file (fault : FileFault)
  | text (fault : TextFault)
deriving DecidableEq

/-- Why a run ends without a report. -/
inductive RunFault
  | load (fault : LoadFault)
  | threshold (fault : ThresholdFault)
  | logFile (fault : FileFault)
  /-- The setting for the log file has this type, which names no file. -/
  | logFileType (typeName : Text)
  | document (fault : DocumentFault)
  | indent (fault : IndentFault)
  | review (fault : ReviewFault)
  | file (fault : FileFault)
  /-- What a file is to hold cannot be encoded. -/
  | encoding (fault : EncodingFault)
deriving DecidableEq

/-- What a command is going to do. -/
structure Plan where
  records : List LogRecord := []
  result : Except RunFault Report

namespace DocumentFault

/-- The wording of a fault. -/
def message : DocumentFault → Text
  | .missing path => "Policy file not found: " ++ path.display
  | .file fault => fault.message
  | .text fault => fault.message

/-- Whether a fault is one that users are told of; the others end a run. -/
def isReported : DocumentFault → Bool
  | .missing _ => true
  | .file _ => false
  | .text fault => fault.isReported

end DocumentFault

namespace RunFault

/-- The wording of a fault. -/
def message : RunFault → Text
  | .load fault => fault.message
  | .threshold fault => fault.message
  | .logFile fault => fault.message
  | .logFileType typeName =>
      "expected str, bytes or os.PathLike object, not " ++ typeName
  | .document fault => fault.message
  | .indent fault => fault.message
  | .review fault => fault.message
  | .file fault => fault.message
  | .encoding fault => fault.message

end RunFault

/-- What a command can read: files and the input. -/
structure Sources where
  tree : FileTree
  input : Text

/-! ## Parts of reports -/

/-- A text on a line of its own. -/
def line (text : Text) : Text :=
  text ++ "\n"

/-- A JSON value as it is printed. -/
def printedJson (json : Json) : Text :=
  line (json.write printedLayout)

namespace Sources

/-- Read a contract from the file with the given name, or from the input if the
name is a hyphen. -/
def policy (sources : Sources) (file : Text) : Except DocumentFault Policy :=
  if file = "-" then
    (Policy.ofText (sources.input.unifyBreaks)).mapError .text
  else do
    let path := Path.ofText file
    if ← (sources.tree.has path).mapError .file then
      let text ← (sources.tree.read path).mapError .file
      (Policy.ofText text).mapError .text
    else
      throw (.missing path)

end Sources

/-- The plan that reports a fault of a document with the given report, or ends
the run. -/
def Plan.ofFault (fault : DocumentFault) (report : Text → Report) : Plan :=
  { result := if fault.isReported then .ok (report fault.message) else .error (.document fault) }

/-! ## Commands -/

/-- Tell the pattern of a contract. -/
def classifyPlan (sources : Sources) (asJson : Bool) (file : Text) : Plan :=
  match sources.policy file with
  | .error fault =>
      .ofFault fault fun message => { code := 1, errors := line ("Error: " ++ message) }
  | .ok policy =>
      let record : LogRecord :=
        { gravity := .debug
          source := "usagecontrol.policy.classifier"
          message := policy.verdictNote }
      let output :=
        if asJson then printedJson policy.pattern.verdict else line policy.pattern.name
      { records := [record], result := .ok { output } }

/-- What is told of a contract that can be read, as JSON. -/
def validityJson (policy : Policy) : Json :=
  .object
    [ member "valid" (.bool true),
      member "rules" (.integer policy.rules.length),
      member "warnings" (.list (policy.review.map fun warning => .text warning.message)),
      member "policy" policy.toPlain ]

/-- What is told of a contract that can be read, line by line. -/
def validityLines (policy : Policy) : Text :=
  let warnings := policy.review.map fun warning => line ("  - " ++ warning.message)
  let heading : Text := if warnings.isEmpty then [] else line "" ++ line "Warnings:"
  line ("Policy valid: " ++ Text.decimal policy.rules.length ++ " rules loaded") ++
    heading ++ warnings.flatten

/-- Tell whether a document is a contract, and what to be warned of. -/
def validatePlan (sources : Sources) (asJson : Bool) (file : Text) : Plan :=
  match sources.policy file with
  | .error fault =>
      .ofFault fault fun message =>
        { code := 1, output := line ("Policy validation failed: " ++ message) }
  | .ok policy =>
      { result := .ok {
          output := if asJson then printedJson (validityJson policy) else validityLines policy } }

/-- The report that there is no such pattern. -/
def unknownPatternReport (fault : PatternFault) : Report :=
  { code := 1
    errors := line ("Error: " ++ fault.message) ++
      line "Run 'usage-patterns patterns' for the list of known patterns" }

/-- The report on an example: it is printed, or written to the named file. -/
def exampleReport (text : Text) (output : Option Text) : Report :=
  match output with
  | none | some [] => { output := text }
  | some file => { output := line ("Exported to: " ++ file), file := some (.ofText file, text) }

/-- Give the example of a pattern. -/
def examplePlan (settings : OutputSettings) (name : Text) (output : Option Text) : Plan :=
  match Pattern.resolve name with
  | .error fault => { result := .ok (unknownPatternReport fault) }
  | .ok pattern =>
      let record : LogRecord :=
        { gravity := .debug
          source := "usagecontrol.policy.engine"
          message := "Synthesizing example for " ++ pattern.name }
      let result : Except RunFault Report :=
        match pattern.example? with
        | none => .ok (unknownPatternReport (.unsupported pattern.name))
        | some policy =>
            match Layout.ofValue settings.indent with
            | .error fault => .error (.indent fault)
            | .ok layout => .ok (exampleReport (line (policy.dump layout)) output)
      { records := [record], result }

/-- The catalogue of patterns, line by line. -/
def catalogueLines : Text :=
  let heading := "Known Patterns (" ++ Text.decimal Pattern.concrete.length ++ ")"
  let entries := Pattern.concrete.map fun pattern =>
    line (pattern.name.padRight 25 ' ' ++ " " ++ pattern.slug)
  line heading ++ line (List.replicate 50 (.scalar '=')) ++ entries.flatten

/-- List the patterns. -/
def patternsPlan (asJson : Bool) : Plan :=
  { result := .ok {
      output := if asJson then printedJson (.list Pattern.catalogue) else catalogueLines } }

/-! ## Launching the service -/

namespace Settings

/-- The settings with what the command line gives in their place.  An empty host
and the port zero give nothing. -/
def override (settings : Settings) (isVerbose : Bool) (host : Option Text)
    (port : Option Int) : Settings :=
  let level : Value := .scalar (.text "debug")
  let logging :=
    if isVerbose then { settings.logging with level := level } else settings.logging
  let service :=
    match host with
    | none | some [] => settings.service
    | some host => { settings.service with host := .scalar (.text host) }
  let service :=
    match port with
    | none | some 0 => service
    | some port => { service with port := .scalar (.integer port) }
  { settings with logging, service }

/-- How the service is launched with the settings. -/
def launch (settings : Settings) : Launch :=
  let service := settings.service
  { host := service.host
    port := service.port
    level := settings.logging.level
    isDebugging := Value.view.isText "debug" settings.logging.level
    origins :=
      if service.allowsOrigins.layer.isTruthy && service.origins.layer.isTruthy then
        some service.origins
      else
        none }

end Settings

/-- Launch the service, unless there are problems with the settings. -/
def servePlan (settings : Settings) (isVerbose : Bool) (host : Option Text)
    (port : Option Int) : Plan :=
  let settings := settings.override isVerbose host port
  let result : Except RunFault Report :=
    match settings.review with
    | .error fault => .error (.review fault)
    | .ok [] => .ok { launch := some settings.launch }
    | .ok problems =>
        let lines := problems.map fun problem => line ("  - " ++ problem.message)
        .ok { code := 1, errors := line "Configuration errors:" ++ lines.flatten }
  { result }

namespace Command

/-- What a command is going to do. -/
def plan (command : Command) (sources : Sources) (settings : Settings)
    (asJson isVerbose : Bool) : Plan :=
  match command with
  | .classify file => classifyPlan sources asJson file
  | .validate file => validatePlan sources asJson file
  | .example pattern output => examplePlan settings.output pattern output
  | .patterns => patternsPlan asJson
  | .serve host port => servePlan settings isVerbose host port

end Command

end UsageContracts
