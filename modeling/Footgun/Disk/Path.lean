/-! # Paths

A path is a root, which relative paths do not have, and a list of names. `Path.ofText` drops empty
and `.` names and keeps `..`; `Path.text` writes a path in its shortest form. -/

namespace Footgun

/-- A path in normal form. -/
structure Path where
  /-- Nothing, one slash or two slashes. -/
  root : String
  /-- The names between the slashes. -/
  parts : List String
  deriving DecidableEq, Repr

namespace Path

/-- The root of a path. Two slashes are kept; more count as one. -/
def rootOf (text : List Char) : String :=
  match (text.takeWhile (· == '/')).length with
  | 0 => ""
  | 2 => "//"
  | _ => "/"

/-- The path that a text denotes. -/
def ofText (text : String) : Path where
  root := rootOf text.toList
  parts := ((text.toList.splitOn '/').map String.ofList).filter fun name => name ≠ "" && name ≠ "."

/-- The shortest text of a path. -/
def text (path : Path) : String :=
  if path.root = "" && path.parts.isEmpty then "." else path.root ++ "/".intercalate path.parts

/-- The path of a name below another path. -/
def child (path : Path) (name : String) : Path :=
  { path with parts := path.parts ++ [name] }

/-- The path above the last name. -/
def parent (path : Path) : Path :=
  { path with parts := path.parts.dropLast }

end Path

end Footgun
