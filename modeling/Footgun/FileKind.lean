/-! # Kinds of files

The name of a file tells how it is scanned. -/

namespace Footgun

/-- How a file is scanned. -/
inductive FileKind where
  /-- As a Go source. -/
  | go
  /-- As a Makefile. -/
  | makefile
  /-- As a shell script. -/
  | shell
  deriving DecidableEq, Repr

/-- Whether a text ends with another. -/
def endsWith (text ending : String) : Bool :=
  ending.toList.isSuffixOf text.toList

/-- The kind of the file at a path. Whatever is neither a Go source nor a Makefile is taken for a
shell script. -/
def FileKind.ofPath (path : String) : FileKind :=
  if endsWith path ".go" then .go
  else if ["Makefile", "makefile", "GNUmakefile", ".mk"].any (endsWith path) then .makefile
  else .shell

/-- The printed name of a kind. -/
def FileKind.name : FileKind → String
  | go => "go"
  | makefile => "makefile"
  | shell => "shell"

end Footgun
