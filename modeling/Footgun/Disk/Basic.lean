import Footgun.Disk.Path
import Footgun.Failure

/-! # The disk

A disk is a tree of files, directories and symbolic links with a working directory in it. `locate`
finds what a path leads to: relative paths start in the working directory and others at the root,
`..` goes up from where the path has led so far, and links are followed, at most forty on the way.
Names and paths have a greatest length, and no name holds a NUL. -/

namespace Footgun

/-- What a directory holds under a name. -/
inductive Entry where
  /-- A file with its bytes. -/
  | file (content : ByteArray)
  /-- A directory with its names. -/
  | directory (entries : List (String × Entry))
  /-- A symbolic link to a path, which need not exist. -/
  | link (target : String)

/-- A tree of entries, and where one is in it. -/
structure Disk where
  /-- What stands at the root. -/
  root : Entry
  /-- The names from the root down to the working directory. -/
  home : List String := []

/-- The disk with nothing on it. -/
def Disk.empty : Disk :=
  { root := .directory [] }

/-- Why a path leads nowhere. -/
inductive LookupError where
  /-- A name is missing. -/
  | missing
  /-- A name stands below something that is no directory. -/
  | notDirectory
  /-- There are too many links on the way. -/
  | tooManyLinks
  /-- The path leads to a directory where a file is asked for. -/
  | isDirectory
  /-- A name or the path is too long. -/
  | tooLong
  /-- The path holds a NUL. -/
  | nulInside
  deriving DecidableEq, Repr

/-- What is wrong, in words. -/
def LookupError.text : LookupError → String
  | missing => "No such file or directory"
  | notDirectory => "Not a directory"
  | tooManyLinks => "Too many levels of symbolic links"
  | isDirectory => "Is a directory"
  | tooLong => "File name too long"
  | nulInside => "embedded null byte"

/-- The failure of a step that needs what a path leads to. -/
def LookupError.failure (path : String) (error : LookupError) : Failure :=
  let refused := s!"{error.text}: {Text.quoted path}"
  match error with
  | missing => ⟨.noFile, refused⟩
  | notDirectory => ⟨.noDirectory, refused⟩
  | tooManyLinks => ⟨.system, refused⟩
  | isDirectory => ⟨.noPlainFile, refused⟩
  | tooLong => ⟨.system, refused⟩
  | nulInside => ⟨.badValue, error.text⟩

/-- The place that a path leads to. -/
structure Located where
  /-- The names from the root down to the place. -/
  place : List String
  /-- What is there, if anything. -/
  found? : Option Entry
  /-- How many links may still be followed. -/
  links : Nat

namespace Disk

/-- How many bytes a name may have. -/
def maxNameBytes : Nat := 255

/-- How many bytes a path may have. -/
def maxPathBytes : Nat := 4095

/-- Whether a name is too long to be looked up. -/
def isTooLong (name : String) : Bool :=
  maxNameBytes < name.utf8ByteSize

/-- Whether the text of a path is too long to be looked up. -/
def isPathTooLong (text : String) : Bool :=
  maxPathBytes < text.utf8ByteSize

/-- What stands below an entry at a list of names, without any link followed. -/
def descend : Entry → List String → Option Entry
  | entry, [] => some entry
  | .directory entries, name :: rest =>
    match entries.lookup name with
    | some entry => descend entry rest
    | none => none
  | _, _ :: _ => none

/-- The place where a path starts that stands at a place: that place itself, or the root if the path
has one. -/
def startOf (place : List String) (path : Path) : List String :=
  if path.root = "" then place else []

/-- The place that names lead to from a place, with a number of links that may be followed. The last
name may be missing; whether a link under the last name is followed is up to `follow`. -/
def locate (disk : Disk) (follow : Bool) (links : Nat) (place : List String) (parts : List String) :
    Except LookupError Located :=
  match parts with
  | [] => .ok ⟨place, descend disk.root place, links⟩
  | name :: rest =>
    match descend disk.root place with
    | none => .error .missing
    | some (.directory entries) =>
      if name = ".." then locate disk follow links place.dropLast rest
      else if isTooLong name then .error .tooLong
      else
        match entries.lookup name with
        | none => if rest.isEmpty then .ok ⟨place ++ [name], none, links⟩ else .error .missing
        | some (.link target) =>
          if rest.isEmpty && !follow then .ok ⟨place ++ [name], some (.link target), links⟩
          else
            match links with
            | 0 => .error .tooManyLinks
            | remaining + 1 =>
              let path := Path.ofText target
              locate disk follow remaining (startOf place path) (path.parts ++ rest)
        | some _ => locate disk follow links (place ++ [name]) rest
    | some _ => .error .notDirectory
termination_by (links, parts.length)

/-- The place that a link leads to, which uses up the link itself. -/
def followLink? (disk : Disk) (links : Nat) (place : List String) (target : String) :
    Option Located :=
  match links with
  | 0 => none
  | remaining + 1 =>
    let path := Path.ofText target
    (disk.locate true remaining (startOf place path) path.parts).toOption

/-- How many links a path may lead through. -/
def maxLinks : Nat := 40

/-- The place that a path leads to, the link under its last name followed or not. Nothing is found
if there is no directory where the path starts. -/
def find (disk : Disk) (follow : Bool) (path : Path) : Except LookupError Located :=
  if path.text.toList.contains '\x00' then .error .nulInside
  else if isPathTooLong path.text then .error .tooLong
  else
    match descend disk.root (startOf disk.home path) with
    | some (.directory _) => disk.locate follow maxLinks (startOf disk.home path) path.parts
    | _ => .error .missing

/-- What a path leads to, if anything, where a path that is too long cannot be asked about. -/
def probe (disk : Disk) (path : Path) : Except LookupError (Option Entry) :=
  match disk.find true path with
  | .ok located => .ok located.found?
  | .error .tooLong => .error .tooLong
  | .error _ => .ok none

/-- What a path leads to, links followed. -/
def found? (disk : Disk) (path : Path) : Option Entry :=
  match disk.find true path with
  | .ok located => located.found?
  | .error _ => none

/-- Whether a path leads to something. -/
def contains (disk : Disk) (path : Path) : Bool :=
  (disk.found? path).isSome

/-- Whether a path leads to a directory. -/
def isDirectory (disk : Disk) (path : Path) : Bool :=
  match disk.found? path with
  | some (.directory _) => true
  | _ => false

/-- Whether a path leads to a file. -/
def isFile (disk : Disk) (path : Path) : Bool :=
  match disk.found? path with
  | some (.file _) => true
  | _ => false

/-- Whether there is something under the last name of a path, be it a link that leads nowhere. -/
def hasName (disk : Disk) (path : Path) : Bool :=
  match disk.find false path with
  | .ok located => located.found?.isSome
  | .error _ => false

/-- The size that a directory is said to have. -/
def directorySize : Nat := 4096

/-- The size of what a path leads to, in bytes. -/
def size (disk : Disk) (path : Path) : Except LookupError Nat := do
  match (← disk.find true path).found? with
  | some (.file content) => return content.size
  | some _ => return directorySize
  | none => .error .missing

/-- The bytes of the file that a path leads to. -/
def read (disk : Disk) (path : Path) : Except LookupError ByteArray := do
  match (← disk.find true path).found? with
  | some (.file content) => return content
  | some _ => .error .isDirectory
  | none => .error .missing

end Disk

end Footgun
