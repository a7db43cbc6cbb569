import UsageContracts.Text.Basic

/-!
# Paths

A path names a file from the working directory, or from the root if it begins
with a slash.  Empty parts and parts that are a single dot name nothing, so
they are dropped; two dots name the folder around a folder.
-/

namespace UsageContracts

/-- The parts of a path from where it starts. -/
structure Path where
  /-- The slashes at the beginning of a path from the root; a path from the
  working directory has none. -/
  root : Text
  parts : List Text
deriving DecidableEq

namespace Path

/-- The slashes that mark a path from the root, of which exactly two are kept
apart from one. -/
def rootOf (text : Text) : Text :=
  match (text.takeWhile fun point : CodePoint => point = '/').length with
  | 0 => []
  | 2 => "//"
  | _ => "/"

/-- Whether a part of a path names something. -/
def isNamed (part : Text) : Bool :=
  !part.isEmpty && part != "."

/-- The path that a text writes. -/
def ofText (text : Text) : Path :=
  { root := rootOf text
    parts := (text.splitOn '/').filter isNamed }

/-- The text of a path; a single dot stands for the working directory. -/
def display (path : Path) : Text :=
  if path.root.isEmpty && path.parts.isEmpty then
    "."
  else
    path.root ++ Text.join "/" path.parts

/-- Whether a path begins at the root. -/
def isFromRoot (path : Path) : Bool :=
  !path.root.isEmpty

/-- Put a part after the parts of a way from the root; two dots take back the
last part. -/
def stepTo (parts : List Text) (part : Text) : List Text :=
  if part = ".." then parts.dropLast else parts ++ [part]

/-- The path from the root that leads to the same place without two dots, if
the working directory is at the given place. -/
def absolute (here : List Text) (path : Path) : Path :=
  if path.isFromRoot then
    { path with parts := path.parts.foldl stepTo [] }
  else
    { root := "/", parts := path.parts.foldl stepTo here }

end Path

end UsageContracts
