import Footgun.Disk.Basic

/-! # Writing to the disk

Directories are made with everything above them, and files are written through links. Each operation
gives the disk after it; what was made before something went wrong stays. -/

namespace Footgun

/-- Entries with the one under a name put in place, or at the end if the name is new. -/
def putEntry (name : String) (entry : Entry) : List (String × Entry) → List (String × Entry)
  | [] => [(name, entry)]
  | first :: rest =>
      if first.1 = name then (name, entry) :: rest else first :: putEntry name entry rest

/-- An entry with something put at a place below it. Nothing changes if a name on the way is
missing. -/
def Entry.put (new : Entry) : List String → Entry → Entry
  | [], _ => new
  | name :: rest, .directory entries =>
    match entries.lookup name with
    | some entry => .directory (putEntry name (put new rest entry) entries)
    | none => if rest.isEmpty then .directory (putEntry name new entries) else .directory entries
  | _ :: _, entry => entry

/-- Why a directory cannot be made. -/
inductive MakeError where
  /-- Something else has its name. -/
  | inTheWay
  /-- The path leads nowhere. -/
  | lookup (error : LookupError)
  deriving DecidableEq, Repr

namespace Disk

/-- The disk with something put at a place. -/
def put (disk : Disk) (place : List String) (entry : Entry) : Disk :=
  { disk with root := entry.put place disk.root }

/-- Makes one directory in a directory that exists. A directory that is there already is left as it
is. -/
def makeDirectory (disk : Disk) (path : Path) : Except MakeError Disk :=
  match disk.find false path with
  | .ok ⟨place, none, _⟩ => .ok (disk.put place (.directory []))
  | .ok _ => if disk.isDirectory path then .ok disk else .error .inTheWay
  | .error error => .error (.lookup error)

/-- Tries to make one directory in a directory that exists. -/
def tryDirectory (disk : Disk) (path : Path) : Disk × Option MakeError :=
  match disk.makeDirectory path with
  | .ok made => (made, none)
  | .error error => (disk, some error)

/-- Tries to make the directory of a list of names, the last one first, after those above it if they
are missing. -/
def makeNames (disk : Disk) (root : String) : List String → Disk × Option MakeError
  | [] => disk.tryDirectory ⟨root, []⟩
  | name :: above =>
    let path : Path := ⟨root, (name :: above).reverse⟩
    match disk.tryDirectory path with
    | (_, some (.lookup .missing)) =>
      match makeNames disk root above with
      | (made, none) => made.tryDirectory path
      | failed => failed
    | result => result

/-- Tries to make a directory and those above it. -/
def makeDirectories (disk : Disk) (path : Path) : Disk × Option MakeError :=
  makeNames disk path.root path.parts.reverse

/-- Writes a file. -/
def write (disk : Disk) (path : Path) (content : ByteArray) : Except LookupError Disk := do
  let located ← disk.find true path
  match located.found? with
  | some (.directory _) => .error .isDirectory
  | _ => return disk.put located.place (.file content)

/-- Makes a link. -/
def makeLink (disk : Disk) (path : Path) (target : String) : Except LookupError Disk := do
  let located ← disk.find false path
  return disk.put located.place (.link target)

end Disk

end Footgun
