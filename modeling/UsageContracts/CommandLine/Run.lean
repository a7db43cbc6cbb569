import UsageContracts.CommandLine.Plan
import UsageContracts.Text.Utf8

/-!
# Runs of the program

A run reads its command line, loads the settings, opens the log and carries out
the plan of its command.  Its outcome is a value: how it ends, what it prints,
and the files that it leaves behind.
-/

namespace UsageContracts

/-- What surrounds a run. -/
structure Surroundings where
  tree : FileTree := {}
  input : Text := []
  /-- The log level that the environment gives. -/
  logLevel : Option Text := none
  /-- The time that the records of the run bear. -/
  time : Text := []

/-- How a run ends. -/
inductive Ending
  /-- A command has reported, or nothing was asked for. -/
  | finished (code : Nat)
  /-- The command line was answered or refused before anything else. -/
  | early (code : Nat)
  | failed (fault : RunFault)
deriving DecidableEq

/-- What a run leaves behind. -/
structure Outcome where
  ending : Ending
  output : Text := []
  errors : Text := []
  tree : FileTree
  launch : Option Launch := none

/-! ## The log -/

/-- An open log: the least rank of the records that are written, and the file
to which they are written besides the errors. -/
structure Log where
  threshold : Nat
  file : Option Path

/-- The path that the setting for a log file names, if any. -/
def LoggingSettings.filePath (settings : LoggingSettings) : Except RunFault (Option Path) :=
  if !settings.file.layer.isTruthy then
    .ok none
  else
    match settings.file with
    | .scalar (.text name) => .ok (some (Path.ofText name))
    | .scalar (.bytes name) => .ok (some (Path.ofText (Text.ofUtf8 name)))
    | value => .error (.logFileType value.layer.typeName)

namespace Surroundings

/-- The files with the log file among them, if one is named. -/
def withLogFile (surroundings : Surroundings) (path? : Option Path) :
    Except RunFault FileTree :=
  match path? with
  | none => .ok surroundings.tree
  | some path => (surroundings.tree.append path []).mapError .logFile

/-- Open the log.  The log file is made before an impossible level is found. -/
def openLog (surroundings : Surroundings) (settings : LoggingSettings) (isVerbose : Bool) :
    FileTree × Except RunFault Log :=
  let opened : Except RunFault (LevelName × Option Path × FileTree) := do
    let level ← (settings.levelName isVerbose).mapError .threshold
    let file := (← settings.filePath).map (Path.absolute surroundings.tree.here)
    let tree ← surroundings.withLogFile file
    return (level, file, tree)
  match opened with
  | .error fault => (surroundings.tree, .error fault)
  | .ok (.noLevel fault, _, tree) => (tree, .error (.threshold fault))
  | .ok (.level threshold, file, tree) => (tree, .ok { threshold, file })

end Surroundings

namespace Log

/-- The lines of the records that a log takes, at the given time. -/
def lines (log : Log) (time : Text) (records : List LogRecord) : Text :=
  (records.filter (log.threshold ≤ ·.gravity.rank)).flatMap (·.line time)

/-- The files after lines are written to the log file. -/
def write (log : Log) (lines : Text) (tree : FileTree) : FileTree :=
  match log.file with
  | none => tree
  | some path =>
      match tree.append path lines with
      | .ok tree => tree
      | .error _ => tree

end Log

/-! ## Running -/

namespace Plan

/-- Carry out a plan, with the lines that are already logged. -/
def carryOut (plan : Plan) (tree : FileTree) (logged : Text) : Outcome :=
  match plan.result with
  | .error fault => { ending := .failed fault, errors := logged, tree }
  | .ok report =>
      let outcome (tree : FileTree) : Outcome :=
        { ending := .finished report.code
          output := report.output
          errors := logged ++ report.errors
          tree
          launch := report.launch }
      match report.file with
      | none => outcome tree
      | some (path, text) =>
          match tree.write path text with
          | .ok (tree, none) => outcome tree
          | .ok (tree, some fault) =>
              { ending := .failed (.encoding fault), errors := logged, tree }
          | .error fault => { ending := .failed (.file fault), errors := logged, tree }

end Plan

namespace Surroundings

/-- Run a command with loaded settings. -/
def runCommand (surroundings : Surroundings) (settings : Settings) (command : Command)
    (asJson isVerbose : Bool) : Outcome :=
  let (tree, opened) := surroundings.openLog settings.logging isVerbose
  match opened with
  | .error fault => { ending := .failed fault, tree }
  | .ok log =>
      let sources : Sources := { tree, input := surroundings.input }
      let plan := command.plan sources settings asJson isVerbose
      let logged := log.lines surroundings.time plan.records
      plan.carryOut (log.write logged tree) logged

/-- Run what an invocation asks for. -/
def runInvocation (surroundings : Surroundings) (invocation : Invocation) : Outcome :=
  let tree := surroundings.tree
  match invocation.command with
  | none => { ending := .finished 0, output := Help.mainHelp, tree }
  | some command =>
      let path? := invocation.settingsFile.map Path.ofText
      match Settings.load surroundings.logLevel tree path? with
      | .ok settings =>
          surroundings.runCommand settings command invocation.asJson invocation.isVerbose
      | .error (.missing path) =>
          let message := (LoadFault.missing path).message
          { ending := .finished 1, errors := line ("Error: " ++ message), tree }
      | .error fault => { ending := .failed (.load fault), tree }

/-- Run the program with the given command line. -/
def run (surroundings : Surroundings) (arguments : List Text) : Outcome :=
  let tree := surroundings.tree
  match Invocation.ofArguments arguments with
  | .ok invocation => surroundings.runInvocation invocation
  | .error (.answered text) => { ending := .early 0, output := text, tree }
  | .error (.refused program usage problem) =>
      { ending := .early 2
        errors := usage ++ line (program ++ ": error: " ++ problem.message)
        tree }

end Surroundings

end UsageContracts
