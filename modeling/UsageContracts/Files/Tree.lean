import UsageContracts.Files.Path
import UsageContracts.Text.Encoding
import UsageContracts.Text.Numeral
import UsageContracts.Text.Quoted

/-!
# The file tree

The files that a run can reach, each at a place that is a list of names from the
root.  A folder is there because it is listed, because a file stands in it, or
because the working directory does.
-/

namespace UsageContracts

/-- Where a file stands: the names of the folders around it and its own. -/
abbrev FilePlace := List Text

/-- The files and folders that can be reached from a working directory. -/
structure FileTree where
  /-- The place of the working directory. -/
  here : FilePlace := []
  files : List (FilePlace × Text) := []
  folders : List FilePlace := []
deriving DecidableEq

/-! ## Faults of access -/

/-- Why a file is not opened. -/
inductive FileProblem
  /-- The file, or a folder on the way to it, is not there. -/
  | missing
  /-- A file stands where the way goes on. -/
  | notAFolder
  /-- A folder stands in the place of the file. -/
  | folder
  /-- A name on the way, or the whole way, is longer than it can be. -/
  | longName
  /-- A name holds the character that ends names. -/
  | terminator
  /-- A name cannot be encoded. -/
  | unencodable (fault : EncodingFault)
deriving DecidableEq

/-- Why the file with the given path is not opened. -/
structure FileFault where
  problem : FileProblem
  path : Text
deriving DecidableEq

namespace FileProblem

/-- The number and the wording of a problem. -/
def label : FileProblem → Text
  | .missing => "[Errno 2] No such file or directory"
  | .notAFolder => "[Errno 20] Not a directory"
  | .folder => "[Errno 21] Is a directory"
  | .longName => "[Errno 36] File name too long"
  | .terminator => "embedded null byte"
  | .unencodable fault => fault.message

end FileProblem

namespace FileFault

/-- The wording of a fault. -/
def message (fault : FileFault) : Text :=
  match fault.problem with
  | .terminator | .unencodable _ => fault.problem.label
  | problem => problem.label ++ ": " ++ fault.path.quoted

end FileFault

/-! ## Text of files -/

/-- Text as it is read from a file or a stream: a carriage return, also one
before a line feed, becomes a line feed. -/
def Text.unifyBreaks : Text → Text
  | [] => []
  | .scalar '\r' :: .scalar '\n' :: rest => .scalar '\n' :: unifyBreaks rest
  | .scalar '\r' :: rest => .scalar '\n' :: unifyBreaks rest
  | point :: rest => point :: unifyBreaks rest

/-! ## Looking up -/

/-- What stands at the end of a path. -/
inductive Entry
  | file (place : FilePlace) (content : Text)
  | folder
  /-- Nothing, but a file can be made there. -/
  | vacant (place : FilePlace)
  | unreachable (problem : FileProblem)
deriving DecidableEq

/-- The number of bytes that a code point takes in a file name. -/
def nameBytes (point : CodePoint) : Nat :=
  if point.number < 0x80 || point.isNameByte then 1
  else if point.number < 0x800 then 2
  else if point.number < 0x10000 then 3
  else 4

/-- Whether a name is too long for a file. -/
def isLongName (name : Text) : Bool :=
  255 < (name.map nameBytes).foldl (· + ·) 0

/-- Whether a path is too long, whatever it leads to. -/
def isLongPath (path : Path) : Bool :=
  4095 < (path.display.map nameBytes).foldl (· + ·) 0

namespace FileTree

/-- The content of the file at a place. -/
def content? (tree : FileTree) (place : FilePlace) : Option Text :=
  tree.files.lookup place

/-- Whether a folder stands at a place. -/
def isFolder (tree : FileTree) (place : FilePlace) : Bool :=
  place.isPrefixOf tree.here ||
    tree.folders.any (place.isPrefixOf ·) ||
    tree.files.any fun (filePlace, _) => filePlace != place && place.isPrefixOf filePlace

/-- What stands at the end of a way that goes on from a folder. -/
def walk (tree : FileTree) (folder : FilePlace) : List Text → Entry
  | [] => .folder
  | part :: parts =>
      if part = ".." then
        walk tree folder.dropLast parts
      else if isLongName part then
        .unreachable .longName
      else
        let next := folder ++ [part]
        match tree.content? next with
        | some content => if parts.isEmpty then .file next content else .unreachable .notAFolder
        | none =>
            if tree.isFolder next then walk tree next parts
            else if parts.isEmpty then .vacant next
            else .unreachable .missing

/-- What stands at the end of a path. -/
def entry (tree : FileTree) (path : Path) : Entry :=
  match path.display.nameFault? with
  | some fault => .unreachable (.unencodable fault)
  | none =>
      if path.parts.any (·.contains '\x00') then
        .unreachable .terminator
      else if isLongPath path then
        .unreachable .longName
      else
        tree.walk (if path.isFromRoot then [] else tree.here) path.parts

/-- Whether something stands at the end of a path. -/
def has (tree : FileTree) (path : Path) : Except FileFault Bool :=
  match tree.entry path with
  | .file _ _ => .ok true
  | .folder => .ok true
  | .unreachable .longName => .error { problem := .longName, path := path.display }
  | _ => .ok false

/-! ## Reading and writing -/

/-- The text of the file at the end of a path. -/
def read (tree : FileTree) (path : Path) : Except FileFault Text :=
  match tree.entry path with
  | .file _ content => .ok content.unifyBreaks
  | .folder => .error { problem := .folder, path := path.display }
  | .vacant _ => .error { problem := .missing, path := path.display }
  | .unreachable problem => .error { problem, path := path.display }

/-- Put a file with the given content at a place. -/
def put (tree : FileTree) (place : FilePlace) (content : Text) : FileTree :=
  let files :=
    if (tree.content? place).isSome then
      tree.files.map fun file => if file.1 = place then (place, content) else file
    else
      tree.files ++ [(place, content)]
  { tree with files }

/-- Give the file at the end of a path the content that a function makes of the
one it has; a new file has the empty content. -/
def update (tree : FileTree) (path : Path) (change : Text → Text) :
    Except FileFault FileTree :=
  match tree.entry path with
  | .file place content => .ok (tree.put place (change content))
  | .vacant place => .ok (tree.put place (change []))
  | .folder => .error { problem := .folder, path := path.display }
  | .unreachable problem => .error { problem, path := path.display }

/-- Write a text to the file at the end of a path, in place of what it held.  A text that
cannot be encoded is found only when the file has been emptied for it. -/
def write (tree : FileTree) (path : Path) (text : Text) :
    Except FileFault (FileTree × Option EncodingFault) :=
  let fault? := text.contentFault?
  (tree.update path fun _ => if fault?.isSome then [] else text).map (·, fault?)

/-- Write a text at the end of the file at the end of a path. -/
def append (tree : FileTree) (path : Path) (text : Text) : Except FileFault FileTree :=
  tree.update path (· ++ text)

end FileTree

end UsageContracts
