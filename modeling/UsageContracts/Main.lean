import Std.Time.Format
import UsageContracts.CommandLine.Reach

/-!
# The program

The outer layer: it looks at the files that a run can reach, runs the program
on them, and prints and writes what the run leaves behind.
-/

namespace UsageContracts.Main

/-- The name of a place for the operating system. -/
def systemName (place : FilePlace) : String :=
  "/" ++ (Text.join "/" place).toString

/-- The tree with what stands at a place, unless it is known already. -/
def look (tree : FileTree) (place : FilePlace) : IO FileTree := do
  if (tree.content? place).isSome || tree.isFolder place then
    return tree
  try
    let bytes ← IO.FS.readBinFile (systemName place)
    return { tree with files := tree.files ++ [(place, Text.ofUtf8 bytes.data.toList)] }
  catch
    | .inappropriateType _ _ _ => return { tree with folders := place :: tree.folders }
    | _ => return tree

/-- The tree with what stands on the ways to the ends of paths. -/
def lookAlong (tree : FileTree) (paths : List Path) : IO FileTree :=
  (paths.flatMap tree.placesTo).foldlM look tree

/-- The place of the working directory. -/
def workingPlace : IO FilePlace := do
  let path := Path.ofText (← IO.currentDir).toString
  return path.parts

/-- The time in the form that log records bear. -/
def timeText : IO Text := do
  let now ← Std.Time.PlainDateTime.now
  return Text.ofString (now.format "uuuu-MM-dd HH:mm:ss")

/-- What surrounds the run of an invocation. -/
def surroundingsOf (invocation : Invocation) : IO Surroundings := do
  let logLevel := (← IO.getEnv "USAGE_PATTERNS_LOG_LEVEL").map Text.ofString
  let tree ← lookAlong { here := ← workingPlace } invocation.paths
  let tree ← lookAlong tree (invocation.logPaths logLevel tree)
  let input ←
    if invocation.command.any Command.readsInput then
      pure (Text.ofUtf8 (← (← IO.getStdin).readBinToEnd).data.toList)
    else
      pure []
  return { tree, input, logLevel, time := ← timeText }

/-- Tell how the service would be reached; no listener is part of the
program. -/
def announce (launch : Launch) : IO Unit := do
  let shown (value : Value) : String :=
    match Value.view.display value with
    | .ok text => text.toString
    | .error fault => fault.message.toString
  IO.eprintln ("Service at " ++ shown launch.host ++ ":" ++ shown launch.port)

/-- Print and write what a run leaves behind; the result is the exit code. -/
def conclude (before : FileTree) (outcome : Outcome) : IO UInt32 := do
  for (place, content) in outcome.tree.changesFrom before do
    IO.FS.writeFile (systemName place) content.toString
  IO.print outcome.output.toString
  IO.eprint outcome.errors.toString
  outcome.launch.forM announce
  match outcome.ending with
  | .finished code => return code.toUInt32
  | .early code => return code.toUInt32
  | .failed fault =>
      IO.eprintln fault.message.toString
      return 1

/-- Run the program with the given arguments. -/
def runProgram (arguments : List String) : IO UInt32 := do
  let arguments := arguments.map Text.ofString
  let surroundings ←
    match Invocation.ofArguments arguments with
    | .ok invocation => surroundingsOf invocation
    | .error _ => pure {}
  conclude surroundings.tree (surroundings.run arguments)

end UsageContracts.Main

/-- The entry point of the program. -/
def main (arguments : List String) : IO UInt32 :=
  UsageContracts.Main.runProgram arguments
