import UsageContracts.Files.Tree
import UsageContracts.Settings.Read
import UsageContracts.Yaml.Read

/-!
# Loading settings

Settings stand in a file.  If no file is named, they are looked for in the
usual places, and without a file there are the defaults.
-/

namespace UsageContracts

/-- Why settings are not loaded. -/
inductive LoadFault
  /-- The named file is not there. -/
  | missing (path : Path)
  | file (fault : FileFault)
  | yaml (fault : Yaml.Fault)
  | settings (fault : SettingsFault)
deriving DecidableEq

namespace LoadFault

/-- The wording of a fault. -/
def message : LoadFault → Text
  | .missing path => "Configuration file not found: " ++ path.display
  | .file fault => fault.message
  | .yaml fault => fault.message
  | .settings fault => fault.message

end LoadFault

namespace Settings

/-- Where settings are looked for if no file is named. -/
def usualPaths : List Path :=
  [ Path.ofText "/etc/usage-patterns/patterns.yaml",
    Path.ofText "config/patterns.yaml",
    Path.ofText "patterns.yaml" ]

/-- The settings that the text of a document gives.  A document that counts as
false, or none at all, gives no settings. -/
def ofText (environment : Option Text) (text : Text) : Except LoadFault Settings := do
  let document? ← (Yaml.read text).mapError .yaml
  let value :=
    match document? with
    | none => Value.null
    | some document => document.graph.unfold document.root
  let value := if value.layer.isTruthy then value else .map []
  (ofValue environment value).mapError .settings

/-- The settings in the file at the end of a path. -/
def ofFile (environment : Option Text) (tree : FileTree) (path : Path) :
    Except LoadFault Settings := do
  if ← (tree.has path).mapError .file then
    let text ← (tree.read path).mapError .file
    ofText environment text
  else
    throw (.missing path)

/-- Whether something stands at the end of a path. -/
def isThere (tree : FileTree) (path : Path) : Bool :=
  match tree.has path with
  | .ok found => found
  | .error _ => false

/-- The settings of a run: those in the named file, those in the first file in
one of the usual places, or the defaults. -/
def load (environment : Option Text) (tree : FileTree) (path? : Option Path) :
    Except LoadFault Settings :=
  match path?.or (usualPaths.find? (isThere tree)) with
  | none => .ok (.default environment)
  | some path => ofFile environment tree path

end Settings

end UsageContracts
