import Footgun.Disk.Glob
import Footgun.Journal.Event
import Footgun.Selection.Filter

/-! # File selection

Targets are turned into the files to scan. A target is a file, a directory, a directory with `...`
behind it, or a glob pattern. `Walker.expand` deals with one target, and `Walker.select` with a list
of them: the files are given once each, in the order of their paths. -/

namespace Footgun

open Journal (Event)

/-- What a target contributes. -/
structure Expansion where
  /-- The paths of the selected files. -/
  files : List String
  /-- The paths of the files that were looked at and have no allowed suffix. -/
  rejected : List String
  /-- The number of files that were looked at. -/
  total : Nat
  /-- The number of directories that were left out. -/
  skipped : Nat
  /-- Whether there is nothing at the target. -/
  missing : Bool
  deriving DecidableEq, Repr

namespace Expansion

/-- No contribution. -/
def nothing : Expansion :=
  ⟨[], [], 0, 0, false⟩

/-- Two contributions together. -/
def append (first second : Expansion) : Expansion where
  files := first.files ++ second.files
  rejected := first.rejected ++ second.rejected
  total := first.total + second.total
  skipped := first.skipped + second.skipped
  missing := first.missing || second.missing

/-- All contributions of a list together. -/
def join (expansions : List Expansion) : Expansion :=
  expansions.foldr append nothing

/-- The contribution of a directory that is left out. -/
def left : Expansion :=
  { nothing with skipped := 1 }

/-- The contribution of a file that is counted and not looked at. -/
def counted : Expansion :=
  { nothing with total := 1 }

/-- The contribution of a target that does not exist. -/
def absent : Expansion :=
  { nothing with missing := true }

/-- The contribution of a file that is looked at. -/
def looked (filter : Filter) (accepted : Bool) (path : String) : Expansion :=
  { counted with
    files := if accepted then [path] else []
    rejected := if filter.allows path then [] else [path] }

end Expansion

/-- What a step contributes, and why it stops, if it does: what it contributed up to there stays. -/
structure Attempt where
  /-- The contribution. -/
  expansion : Expansion
  /-- Why the step stops. -/
  failure? : Option Failure
  deriving DecidableEq, Repr

namespace Attempt

/-- A step that does not stop. -/
def done (expansion : Expansion) : Attempt :=
  ⟨expansion, none⟩

/-- A step that stops at once. -/
def stopped (failure : Failure) : Attempt :=
  ⟨.nothing, some failure⟩

/-- Two steps, of which the second is made unless the first one stops. -/
def andThen (first second : Attempt) : Attempt :=
  match first.failure? with
  | none => ⟨first.expansion.append second.expansion, second.failure?⟩
  | some _ => first

/-- The steps of a list one after the other, up to the first one that stops. -/
def inTurn (attempts : List Attempt) : Attempt :=
  attempts.foldr andThen (done .nothing)

end Attempt

/-! ## Directories -/

namespace Path

/-- The path of names below another path. -/
def below (base : Path) (names : List String) : Path :=
  { base with parts := base.parts ++ names }

/-- How a walk from a path writes what is at names below it. Unlike the text of the path below, this
keeps the dot of the working directory in front. -/
def written (base : Path) (names : List String) : String :=
  String.ofList (names.foldl (fun above name => joinName above name.toList) base.text.toList)

end Path

/-- A directory that a walk comes to. -/
structure Visit where
  /-- The names from the start of the walk down to the directory. -/
  names : List String
  /-- Where the directory is. -/
  place : List String
  /-- How many links may still be followed. -/
  links : Nat
  /-- What the directory holds. -/
  entries : List (String × Entry)

namespace Visit

/-- What can be listed in the directory: nothing, if the text of its path is too long. -/
def listed (visit : Visit) (base : Path) : List (String × Entry) :=
  if Disk.isPathTooLong (base.written visit.names) then [] else visit.entries

/-- The visit of an entry that is a directory, or a link that leads to one. Where a link leads
cannot be told if the text of its path is too long. -/
def below? (visit : Visit) (disk : Disk) (base : Path) : String × Entry → Option Visit
  | (_, .file _) => none
  | (name, .directory entries) =>
    some ⟨visit.names ++ [name], visit.place ++ [name], visit.links, entries⟩
  | (name, .link target) =>
    if Disk.isPathTooLong (base.written (visit.names ++ [name])) then none
    else
      match disk.followLink? visit.links visit.place target with
      | some ⟨place, some (.directory entries), links⟩ =>
        some ⟨visit.names ++ [name], place, links, entries⟩
      | _ => none

/-- The entries that are directories, or links that lead to some. -/
def directories (visit : Visit) (disk : Disk) (base : Path) : List (String × Entry) :=
  (visit.listed base).filter fun held => (visit.below? disk base held).isSome

/-- The entries that are no directories. -/
def others (visit : Visit) (disk : Disk) (base : Path) : List (String × Entry) :=
  (visit.listed base).filter fun held => (visit.below? disk base held).isNone

end Visit

/-- Whether an entry is a link. -/
def Entry.isLink : Entry → Bool
  | link _ => true
  | _ => false

/-- How files are selected. -/
structure Walker where
  /-- Which files are selected. -/
  filter : Filter
  /-- Whether links below a directory are followed. -/
  followLinks : Bool
  /-- How many directories deep a walk can go below its start. -/
  levels : Nat

namespace Walker

/-- The contribution of an entry that is no directory. Unless links are followed, it has to be asked
whether the entry is one, which fails if the path is too long. -/
def lookAt (walker : Walker) (path : Path) (entry : Entry) : Attempt :=
  if !walker.followLinks && Disk.isPathTooLong path.text then
    ⟨.counted, some (LookupError.tooLong.failure path.text)⟩
  else if !walker.followLinks && entry.isLink then .done .counted
  else .done (.looked walker.filter (walker.filter.allows path.text) path.text)

/-- The directories of a visit that are left out. -/
def excluded (walker : Walker) (disk : Disk) (base : Path) (visit : Visit) :
    List (String × Entry) :=
  (visit.directories disk base).filter fun held => walker.filter.excludes held.1

/-- The directories of a visit that are not left out, in the order of their names. -/
def kept (walker : Walker) (disk : Disk) (base : Path) (visit : Visit) : List (String × Entry) :=
  ((visit.directories disk base).filter fun held => !walker.filter.excludes held.1).mergeSort
    fun first second => decide (first.1 ≤ second.1)

/-- The visits that follow a visit. Links are passed over unless they are followed. -/
def entered (walker : Walker) (disk : Disk) (base : Path) (visit : Visit) : List Visit :=
  ((walker.kept disk base visit).filter fun held => walker.followLinks || !held.2.isLink).filterMap
    (visit.below? disk base)

/-- The visits of a walk that goes down a number of levels, each one before those below it. -/
def visits (walker : Walker) (disk : Disk) (base : Path) : Nat → Visit → List Visit
  | 0, visit => [visit]
  | levels + 1, visit =>
    visit :: (walker.entered disk base visit).flatMap (visits walker disk base levels)

/-- The failure of a walk that would have to go too deep. -/
def tooDeepBelow (base : Path) : Failure :=
  ⟨.tooDeep, s!"the directories below {base.text} are nested too deeply"⟩

/-- The contribution of a visit: the directories that are left out, and then everything that is no
directory. It stops if a directory is left to be entered that is too deep. -/
def attend (walker : Walker) (disk : Disk) (base : Path) (visit : Visit) : Attempt :=
  let found := (visit.others disk base).map fun held =>
    walker.lookAt (base.below (visit.names ++ [held.1])) held.2
  let deeper :=
    if visit.names.length < walker.levels || (walker.kept disk base visit).isEmpty then
      Attempt.done .nothing
    else .stopped (tooDeepBelow base)
  (Attempt.done (.join ((walker.excluded disk base visit).map fun _ => .left))).andThen
    ((Attempt.inTurn found).andThen deeper)

/-- The contribution of a walk from a visit. -/
def walk (walker : Walker) (disk : Disk) (base : Path) (start : Visit) : Attempt :=
  .inTurn ((walker.visits disk base walker.levels start).map (walker.attend disk base))

/-- The contribution of a directory, and none if there is no directory. A path that holds a NUL is
an error. -/
def walkDirectory (walker : Walker) (disk : Disk) (path : Path) : Attempt :=
  match disk.find true path with
  | .ok ⟨place, some (.directory entries), links⟩ =>
      walker.walk disk path ⟨[], place, links, entries⟩
  | .error .nulInside => .stopped (LookupError.nulInside.failure path.text)
  | _ => .done .nothing

/-! ## Targets -/

/-- The contribution of a file that is named by itself. -/
def walkFile (walker : Walker) (path : Path) : Expansion :=
  Expansion.looked walker.filter (walker.filter.accepts path.text) path.text

/-- The contribution of a target that is no directory. -/
def walkOther (walker : Walker) (path : Path) : Option Entry → Expansion
  | some (.file _) => walker.walkFile path
  | _ => .absent

/-- The contribution of a path: a directory is walked, and for anything else `other` says what it
contributes. A path that is too long is an error. -/
def expandAt (walker : Walker) (disk : Disk) (path : Path) (other : Option Entry → Expansion) :
    Attempt :=
  match disk.probe path with
  | .error error => .stopped (error.failure path.text)
  | .ok (some (.directory _)) => walker.walkDirectory disk path
  | .ok found? => .done (other found?)

/-- The contribution of a path that fits a pattern. -/
def expandMatch (walker : Walker) (disk : Disk) (path : Path) : Attempt :=
  walker.expandAt disk path fun _ => walker.walkFile path

/-- The contribution of a path that is a target. -/
def expandPath (walker : Walker) (disk : Disk) (path : Path) : Attempt :=
  walker.expandAt disk path (walker.walkOther path)

/-- The directory of a target with three dots behind it. -/
def recursiveBase? (target : String) : Option String :=
  if endsWith target "..." then some (String.ofList (target.toList.take (target.toList.length - 3)))
  else none

/-- The texts of a list in the order of their code points. -/
def inOrder (texts : List String) : List String :=
  texts.mergeSort fun first second => decide (first ≤ second)

/-- The contribution of a target. The paths that fit a pattern are dealt with in order. -/
def expand (walker : Walker) (disk : Disk) (target : String) : Attempt :=
  match recursiveBase? target with
  | some base => walker.walkDirectory disk (Path.ofText base)
  | none =>
    if hasMagic target.toList then
      match disk.glob target with
      | .error error => .stopped (error.failure target)
      | .ok found =>
        .inTurn ((inOrder found).map fun hit => walker.expandMatch disk (Path.ofText hit))
    else walker.expandPath disk (Path.ofText target)

/-! ## Lists of targets -/

/-- A sorted list without repetitions. -/
def dropRepeated : List String → List String
  | first :: second :: rest =>
    if first = second then dropRepeated (second :: rest) else first :: dropRepeated (second :: rest)
  | short => short

/-- The texts of a list, once each, in the order of their code points. -/
def sortDistinct (texts : List String) : List String :=
  dropRepeated (inOrder texts)

/-- The files that a list of targets selects, with the counts so far and what there is to tell. -/
structure Selection where
  /-- The paths of the files, once each and in order. -/
  files : List String
  /-- The counts after the selection. -/
  statistics : Statistics
  /-- What there is to tell. -/
  events : List Event

/-- The selection of targets with their contributions, given the counts before it. -/
def gather (before : Statistics) (expansions : List (String × Expansion)) : Selection :=
  let joined := Expansion.join (expansions.map (·.2))
  let files := sortDistinct joined.files
  let absent := expansions.filter (·.2.missing)
  { files
    statistics := {
      totalFiles := before.totalFiles + joined.total
      selectedFiles := files.length
      skippedDirectories := before.skippedDirectories + joined.skipped
      missingTargets := before.missingTargets + absent.length }
    events := absent.map fun entry => Event.targetMissing entry.1 }

/-- The contributions of targets up to the first one that stops, and why it does. -/
def expandAll (walker : Walker) (disk : Disk) :
    List String → List (String × Expansion) × Option Failure
  | [] => ([], none)
  | target :: rest =>
    match walker.expand disk target with
    | ⟨expansion, some failure⟩ => ([(target, expansion)], some failure)
    | ⟨expansion, none⟩ =>
      let (later, failure?) := expandAll walker disk rest
      ((target, expansion) :: later, failure?)

/-- Selects the files of a list of targets, given the counts before it. -/
def select (walker : Walker) (disk : Disk) (before : Statistics) (targets : List String) :
    Except Failure Selection :=
  match walker.expandAll disk targets with
  | (expansions, none) => .ok (gather before expansions)
  | (_, some failure) => .error failure

end Walker

end Footgun
