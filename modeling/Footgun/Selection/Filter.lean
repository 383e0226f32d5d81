import Footgun.Disk.Path
import Footgun.FileKind

/-! # Filters for files

A file is scanned if its path ends with an allowed suffix and none of the directories on the path is
excluded. -/

namespace Footgun

/-- Which files are selected. -/
structure Filter where
  /-- The endings that a path may have. -/
  allowed : List String
  /-- The names of directories that are left out, without slashes around them. -/
  excluded : List String
  deriving DecidableEq, Repr

/-- A name without the slashes around it. -/
def stripSlashes (name : String) : String :=
  String.ofList
    ((name.toList.dropWhile (· == '/')).reverse.dropWhile (· == '/')).reverse

namespace Filter

/-- The filter of allowed endings and excluded names, which may be written with slashes. -/
def ofLists (allowed excluded : List String) : Filter :=
  ⟨allowed, (excluded.filter (· ≠ "")).map stripSlashes⟩

/-- Whether a path ends with an allowed suffix. Empty suffixes do not count. -/
def allows (filter : Filter) (path : String) : Bool :=
  filter.allowed.any fun suffix => suffix ≠ "" && endsWith path suffix

/-- Whether the name of a directory is excluded. -/
def excludes (filter : Filter) (name : String) : Bool :=
  filter.excluded.contains name

/-- Whether a directory on the way to a file is excluded. -/
def excludesAbove (filter : Filter) (path : Path) : Bool :=
  path.parts.dropLast.any filter.excludes

/-- Whether the file at a path is scanned. -/
def accepts (filter : Filter) (path : String) : Bool :=
  filter.allows path && !filter.excludesAbove (Path.ofText path)

end Filter

end Footgun
