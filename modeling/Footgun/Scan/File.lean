import Footgun.Disk.Basic
import Footgun.Scan.Content

/-! # Scanning a file

`scanFile` reads a file from the disk and scans it. A file that is too large, cannot be read or does
not parse has no findings, and an event says so. -/

namespace Footgun.Scan

open Journal (Event)
open Syntax (Parser)

/-- Why the text of a file is not scanned. -/
inductive Obstacle where
  /-- The file is too large. -/
  | tooLarge (limit : Limit)
  /-- The file cannot be read. -/
  | unreadable (error : LookupError)
  /-- The bytes of the file are no text. -/
  | noText
  deriving DecidableEq, Repr

/-- The event of an obstacle. -/
def Obstacle.event (path : String) : Obstacle → Event
  | tooLarge limit => .skipped path limit
  | unreadable error => .unreadable path error.text
  | noText => .unreadable path "the bytes are not UTF-8"

/-- Turns away a file whose size is not below the limit. -/
def checkSize (disk : Disk) (limit : Option Limit) (path : Path) : Except Obstacle Unit :=
  match limit with
  | none => .ok ()
  | some limit =>
    match disk.size path with
    | .error error => .error (.unreadable error)
    | .ok size => if limit.excludes size then .error (.tooLarge limit) else .ok ()

/-- The text of a file, every end of a line turned into a newline. -/
def readText (disk : Disk) (path : Path) : Except Obstacle String :=
  match disk.read path with
  | .error error => .error (.unreadable error)
  | .ok bytes =>
    match Text.decode? bytes with
    | none => .error .noText
    | some text => .ok (String.ofList (Text.foldNewlines text.toList))

/-- The text of a file that is small enough. -/
def readFile (disk : Disk) (limit : Option Limit) (path : Path) : Except Obstacle String := do
  checkSize disk limit path
  readText disk path

/-- The event that a file is about to be scanned. -/
def startEvent (path : Path) : Event :=
  .handling (FileKind.ofPath path.text) path.text

/-- Reads and scans one file. It fails only if the path holds a NUL or the tree cuts a character in
two. -/
def scanFile (parser : Parser) (disk : Disk) (rules : RuleSet) (resolvePaths : Bool)
    (limit : Option Limit) (path : Path) : Except Failure Findings :=
  let name := path.text
  match readFile disk limit path with
  | .error (.unreadable .nulInside) => .error (LookupError.nulInside.failure name)
  | .error obstacle => .ok ([], [startEvent path, obstacle.event name])
  | .ok content =>
    match scanContent parser rules resolvePaths name content with
    | .ok (findings, events) => .ok (findings, startEvent path :: events)
    | .error (.parse failure) => .ok ([], [startEvent path, .unparsable name failure])
    | .error .splitCharacter => .error ⟨.noText, s!"a node of {name} cuts a character in two"⟩

end Footgun.Scan
