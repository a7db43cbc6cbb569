import UsageContracts.CommandLine.Run

/-!
# What a run looks at

The files that a run may look at are known before it, but for the log file,
which the settings name.  They suffice to tell what the run does.
-/

namespace UsageContracts

namespace Command

/-- The paths that a command is given. -/
def paths : Command → List Path
  | .classify file => [Path.ofText file]
  | .validate file => [Path.ofText file]
  | .example _ (some file) => [Path.ofText file]
  | _ => []

/-- Whether a command reads the input. -/
def readsInput : Command → Bool
  | .classify file => file == "-"
  | .validate file => file == "-"
  | _ => false

end Command

namespace Invocation

/-- The paths at which settings are looked for, and those of the command. -/
def paths (invocation : Invocation) : List Path :=
  let settings :=
    match invocation.settingsFile with
    | none => Settings.usualPaths
    | some file => [Path.ofText file]
  settings ++ (invocation.command.map Command.paths).getD []

/-- The path of the log file that the settings of a run name. -/
def logPaths (invocation : Invocation) (logLevel : Option Text) (tree : FileTree) : List Path :=
  match Settings.load logLevel tree (invocation.settingsFile.map Path.ofText) with
  | .error _ => []
  | .ok settings =>
      match settings.logging.filePath with
      | .ok (some path) => [path]
      | _ => []

end Invocation

namespace FileTree

/-- The places on the way to the end of a path: the folders to pass, and last
the end itself. -/
def placesTo (tree : FileTree) (path : Path) : List FilePlace :=
  let start := if path.isFromRoot then [] else tree.here
  (List.range (path.parts.length + 1)).map fun count =>
    (path.parts.take count).foldl Path.stepTo start

/-- The files of a tree that are not the same in another tree. -/
def changesFrom (tree before : FileTree) : List (FilePlace × Text) :=
  tree.files.filter fun (place, content) => before.content? place != some content

end FileTree

end UsageContracts
