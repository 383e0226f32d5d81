import Footgun.Proofs.DiskPlaces
import Footgun.Proofs.GlobSearch
import Footgun.Selection.Basic

/-! # The shape of a disk

The shape of a disk is the disk with all its files emptied. Where a path leads and which files are
selected depends on the shape alone, that is, on the names on the disk and on whether they are those
of files, directories or links. Writing to a file that is there keeps the shape. Main definitions:

* `Entry.shape`, `Disk.shape` — an entry or a disk whose files are emptied.

The main statements are `Disk.find_shape`, `Disk.glob_shape`, `Walker.expandAll_shape` and
`Disk.shape_put`. -/

namespace Footgun

mutual

/-- An entry whose files are emptied. -/
def Entry.shape : Entry → Entry
  | .file _ => .file .empty
  | .directory entries => .directory (shapeEntries entries)
  | .link target => .link target

/-- The entries of a directory whose files are emptied. -/
def Entry.shapeEntries : List (String × Entry) → List (String × Entry)
  | [] => []
  | (name, entry) :: rest => (name, entry.shape) :: shapeEntries rest

end

/-- A disk whose files are emptied. -/
def Disk.shape (disk : Disk) : Disk :=
  { disk with root := disk.root.shape }

/-- A place with emptied files. -/
def Located.shape (located : Located) : Located :=
  ⟨located.place, located.found?.map Entry.shape, located.links⟩

namespace Entry

/-- The shape of entries is the shape of each of them. -/
theorem shapeEntries_eq_map (entries : List (String × Entry)) :
    shapeEntries entries = entries.map fun entry => (entry.1, entry.2.shape) := by
  induction entries with
  | nil => rfl
  | cons first rest ih =>
      obtain ⟨name, entry⟩ := first
      rw [shapeEntries, ih]
      rfl

/-- Looking up a name gives the shape of what is there. -/
theorem lookup_shapeEntries (name : String) (entries : List (String × Entry)) :
    (shapeEntries entries).lookup name = (entries.lookup name).map shape := by
  induction entries with
  | nil => rfl
  | cons first rest ih =>
      obtain ⟨other, entry⟩ := first
      rw [shapeEntries, List.lookup_cons, List.lookup_cons, ih]
      cases name == other <;> rfl

end Entry

namespace Disk

open Entry (shapeEntries lookup_shapeEntries)

/-! ## Looking up -/

/-- Descending in the shape of an entry gives the shape of what is there. -/
theorem descend_shape (entry : Entry) (names : List String) :
    descend entry.shape names = (descend entry names).map Entry.shape := by
  induction names generalizing entry with
  | nil => rfl
  | cons name rest ih =>
      cases entry with
      | file content => rfl
      | link target => rfl
      | directory entries =>
          rw [Entry.shape, descend, descend, lookup_shapeEntries]
          cases entries.lookup name with
          | none => rfl
          | some next => exact ih next

/-- Following names on `disk.shape` leads to the same place, with the shape of what is there. -/
theorem locate_shape (disk : Disk) (follow : Bool) (links : Nat) (place parts : List String) :
    disk.shape.locate follow links place parts =
      (disk.locate follow links place parts).map Located.shape := by
  have descends :
      ∀ names, descend disk.shape.root names = (descend disk.root names).map Entry.shape :=
    descend_shape disk.root
  fun_induction locate disk follow links place parts with
  | case1 links place =>
      rw [locate, descends]
      rfl
  -- Steps up, along a link and down go on with `ih`; all other cases end here.
  | case3 links place rest entries isDirectory ih =>
      rw [locate_up (by rw [descends, isDirectory]; rfl), ih]
  | case9 place name rest entries isDirectory notUp short target isLink followed remaining _ ih =>
      rw [locate_link (by rw [descends, isDirectory]; rfl) notUp short
        (by rw [lookup_shapeEntries, isLink]; rfl) followed, ih]
  | case10 links place name rest entries isDirectory notUp short entry noLink isEntry ih =>
      rw [locate_down (by rw [descends, isDirectory]; rfl) notUp short
        (by rw [lookup_shapeEntries, isEntry]; rfl), ih]
      intro target same
      cases entry with
      | file content => cases same
      | directory inner => cases same
      | link target => exact noLink target rfl
  | case2 links place name rest missing => simp [locate, descends, missing, Except.map]
  | case4 links place name rest entries isDirectory notUp long =>
      simp [locate, descends, isDirectory, Entry.shape, notUp, long, Except.map]
  | case5 links place name rest entries isDirectory notUp short missing last =>
      simp [locate, descends, isDirectory, Entry.shape, lookup_shapeEntries, notUp, short,
        missing, last, Except.map, Located.shape]
  | case6 links place name rest entries isDirectory notUp short missing further =>
      simp [locate, descends, isDirectory, Entry.shape, lookup_shapeEntries, notUp, short, missing,
        further, Except.map]
  | case7 links place name rest entries isDirectory notUp short target isLink kept =>
      simp [locate, descends, isDirectory, Entry.shape, lookup_shapeEntries, notUp, short,
        isLink, kept, Except.map, Located.shape]
  | case8 place name rest entries isDirectory notUp short target isLink followed =>
      simp [locate, descends, isDirectory, Entry.shape, lookup_shapeEntries, notUp, short, isLink,
        followed, Except.map]
  | case11 links place name rest entry noDirectory isEntry =>
      cases entry with
      | file content => simp [locate, descends, isEntry, Entry.shape, Except.map]
      | link target => simp [locate, descends, isEntry, Entry.shape, Except.map]
      | directory inner => exact absurd rfl (noDirectory inner)

/-- Looking up a path on `disk.shape` leads to the same place, with the shape of what is there. -/
theorem find_shape (disk : Disk) (follow : Bool) (path : Path) :
    disk.shape.find follow path = (disk.find follow path).map Located.shape := by
  have start : descend disk.shape.root (startOf disk.shape.home path) =
      (descend disk.root (startOf disk.home path)).map Entry.shape :=
    descend_shape disk.root (startOf disk.home path)
  unfold find
  split
  · rfl
  · split
    · rfl
    · rw [start]
      -- Both look-ups start at the same place, which is a directory or not for both.
      rcases descend disk.root (startOf disk.home path) with _ | ⟨content | entries | target⟩
      · rfl
      · rfl
      · exact locate_shape disk follow maxLinks (startOf disk.home path) path.parts
      · rfl

/-- Following a link on `disk.shape` leads to the same place, with the shape of what is there. -/
theorem followLink?_shape (disk : Disk) (links : Nat) (place : List String) (target : String) :
    disk.shape.followLink? links place target =
      (disk.followLink? links place target).map Located.shape := by
  unfold followLink?
  split
  · rfl
  · dsimp only
    rw [locate_shape]
    cases disk.locate true _ (startOf place (Path.ofText target)) (Path.ofText target).parts <;> rfl

/-- Probing a path on `disk.shape` gives the shape of what is there. -/
theorem probe_shape (disk : Disk) (path : Path) :
    disk.shape.probe path = (disk.probe path).map (Option.map Entry.shape) := by
  unfold probe
  rw [find_shape]
  cases disk.find true path with
  | ok located => rfl
  | error error => cases error <;> rfl

/-- What a path leads to on `disk.shape` is the shape of what it leads to on `disk`. -/
theorem found?_shape (disk : Disk) (path : Path) :
    disk.shape.found? path = (disk.found? path).map Entry.shape := by
  unfold found?
  rw [find_shape]
  cases disk.find true path <;> rfl

/-- Whether a path leads to a directory is seen from the shape. -/
@[simp] theorem isDirectory_shape (disk : Disk) (path : Path) :
    disk.shape.isDirectory path = disk.isDirectory path := by
  unfold isDirectory
  rw [found?_shape]
  rcases disk.found? path with _ | ⟨_ | _ | _⟩ <;> rfl

/-- Whether a path has a name on the disk is seen from the shape. -/
@[simp] theorem hasName_shape (disk : Disk) (path : Path) :
    disk.shape.hasName path = disk.hasName path := by
  unfold hasName
  rw [find_shape]
  cases disk.find false path with
  | error error => rfl
  | ok located => exact Option.isSome_map

/-! ## Searching -/

/-- The names in a directory are seen from the shape. -/
theorem names_shape (disk : Disk) (directoriesOnly : Bool) (path : List Char) :
    disk.shape.names directoriesOnly path = disk.names directoriesOnly path := by
  unfold names
  dsimp only
  rw [find_shape]
  rcases disk.find true (Path.ofText (String.ofList path)) with error | ⟨place, found?, links⟩
  · cases error <;> rfl
  · rcases found? with _ | ⟨content | entries | target⟩
    · rfl
    · rfl
    · simp only [Except.map, Located.shape, Option.map_some, Entry.shape, Entry.shapeEntries_eq_map,
        isDirectory_shape, List.filter_map, List.map_map]
      rfl
    · rfl

/-- The names that are like a pattern are seen from the shape. -/
theorem namesLike_shape (disk : Disk) (directoriesOnly : Bool) (path last : List Char) :
    disk.shape.namesLike directoriesOnly path last = disk.namesLike directoriesOnly path last := by
  unfold namesLike
  simp only [names_shape, isDirectory_shape, hasName_shape]

/-- What the parts of a pattern fit is seen from the shape. The induction is on the fuel of
`globParts`. -/
theorem globParts_shape (disk : Disk) (fuel : Nat) (directoriesOnly : Bool) (pattern : List Char) :
    disk.shape.globParts fuel directoriesOnly pattern =
      disk.globParts fuel directoriesOnly pattern := by
  induction fuel generalizing directoriesOnly pattern with
  | zero => rfl
  | succ fuel ih =>
      have below : disk.shape.globBelow directoriesOnly (splitLast pattern).2 =
          disk.globBelow directoriesOnly (splitLast pattern).2 := by
        funext base
        rw [globBelow, globBelow, namesLike_shape]
      rw [globParts_succ, globParts_succ, namesLike_shape, below, globBases, globBases, ih]

/-- What a pattern fits is seen from the shape. -/
theorem glob_shape (disk : Disk) (pattern : String) :
    disk.shape.glob pattern = disk.glob pattern := by
  unfold glob
  rw [globParts_shape]

/-! ## Writing -/

/-- Putting an entry in place of one of the same shape keeps the shape of the entries. -/
theorem shapeEntries_putEntry {name : String} {old new : Entry} {entries : List (String × Entry)}
    (held : entries.lookup name = some old) (same : new.shape = old.shape) :
    shapeEntries (putEntry name new entries) = shapeEntries entries := by
  induction entries with
  | nil => cases held
  | cons first rest ih =>
      obtain ⟨other, entry⟩ := first
      rw [List.lookup_cons] at held
      rw [putEntry]
      by_cases here : other = name
      · subst here
        rw [beq_self_eq_true] at held
        cases held
        rw [if_pos rfl, shapeEntries, shapeEntries, same]
      · rw [beq_false_of_ne (Ne.symm here)] at held
        rw [if_neg here, shapeEntries, shapeEntries, ih held]

/-- Putting an entry at the place of one of the same shape keeps the shape of the root. -/
theorem shape_entryPut {root old new : Entry} {place : List String}
    (found : descend root place = some old) (same : new.shape = old.shape) :
    (new.put place root).shape = root.shape := by
  induction place generalizing root with
  | nil =>
      cases found
      exact same
  | cons name rest ih =>
      obtain ⟨entries, next, rfl, held, further⟩ := exists_lookup_of_descend found
      rw [Entry.put, held]
      dsimp only
      rw [Entry.shape, Entry.shape, shapeEntries_putEntry held (ih further)]

/-- Writing to a file that is there keeps `disk.shape`. -/
theorem shape_put {disk : Disk} {place : List String} {old : ByteArray}
    (found : descend disk.root place = some (.file old)) (content : ByteArray) :
    (disk.put place (.file content)).shape = disk.shape :=
  congrArg (Disk.mk · disk.home) (shape_entryPut found rfl)

end Disk

/-! ## Selecting -/

/-- A visit of a directory with emptied files. -/
def Visit.shape (visit : Visit) : Visit :=
  { visit with entries := Entry.shapeEntries visit.entries }

namespace Visit

/-- An entry of a directory with emptied files. -/
def shapeHeld (held : String × Entry) : String × Entry :=
  (held.1, held.2.shape)

variable (visit : Visit) (disk : Disk) (base : Path)

/-- What is listed at a visit of the shape are the shapes of what is listed. -/
theorem listed_shape : visit.shape.listed base = (visit.listed base).map shapeHeld := by
  unfold listed
  split
  · rw [if_pos ‹_›]
    rfl
  · rw [if_neg ‹_›]
    exact Entry.shapeEntries_eq_map visit.entries

/-- An entry leads below on `disk.shape` if it does on `disk`, to the shape of the same visit. -/
theorem below?_shape (held : String × Entry) :
    visit.shape.below? disk.shape base (shapeHeld held) =
      (visit.below? disk base held).map shape := by
  obtain ⟨name, content | entries | target⟩ := held
  · rfl
  · rfl
  · simp only [shapeHeld, Entry.shape, below?, Disk.followLink?_shape, shape]
    split
    · rfl
    · rcases disk.followLink? visit.links visit.place target with
        _ | ⟨place, _ | ⟨content | entries | other⟩, links⟩ <;> rfl

/-- The directories at a visit of the shape are those at the visit. -/
theorem directories_shape :
    visit.shape.directories disk.shape base = (visit.directories disk base).map shapeHeld := by
  rw [directories, directories, listed_shape, List.filter_map]
  congr 1
  refine List.filter_congr fun held _ => ?_
  rw [Function.comp_apply, below?_shape, Option.isSome_map]

/-- What is no directory at a visit of the shape are the shapes of what is none at the visit. -/
theorem others_shape :
    visit.shape.others disk.shape base = (visit.others disk base).map shapeHeld := by
  rw [others, others, listed_shape, List.filter_map]
  congr 1
  refine List.filter_congr fun held _ => ?_
  rw [Function.comp_apply, below?_shape, Option.isNone_map]

end Visit

namespace Walker

open Visit (shapeHeld)

variable (walker : Walker) (disk : Disk)

section

variable (base : Path) (visit : Visit)

/-- Looking at an entry asks whether it is a link and not what is in it. -/
theorem lookAt_shape (path : Path) (entry : Entry) :
    walker.lookAt path entry.shape = walker.lookAt path entry := by
  have isLink : entry.shape.isLink = entry.isLink := by cases entry <;> rfl
  rw [lookAt, lookAt, isLink]

/-- A visit of the shape leaves out as many directories. -/
theorem map_left_excluded_shape :
    (walker.excluded disk.shape base visit.shape).map (fun _ => Expansion.left) =
      (walker.excluded disk base visit).map fun _ => Expansion.left := by
  rw [excluded, excluded, Visit.directories_shape, List.filter_map, List.map_map]
  rfl

/-- A visit of the shape keeps the same directories. -/
theorem kept_shape :
    walker.kept disk.shape base visit.shape = (walker.kept disk base visit).map shapeHeld := by
  rw [kept, kept, Visit.directories_shape, List.filter_map, List.map_mergeSort]
  · rfl
  · exact fun first _ second _ => rfl

/-- A visit of the shape enters the shapes of the same visits. -/
theorem entered_shape :
    walker.entered disk.shape base visit.shape =
      (walker.entered disk base visit).map Visit.shape := by
  have links : (fun held : String × Entry => walker.followLinks || !held.2.isLink) ∘ shapeHeld =
      fun held => walker.followLinks || !held.2.isLink := by
    funext held
    obtain ⟨name, content | entries | target⟩ := held <;> rfl
  rw [entered, entered, kept_shape, List.filter_map, links, List.filterMap_map, List.map_filterMap]
  congr 1
  funext held
  exact Visit.below?_shape visit disk base held

/-- The visits of a walk on `disk.shape` are the shapes of those on `disk`. The induction is on
`levels`. -/
theorem visits_shape (levels : Nat) :
    walker.visits disk.shape base levels visit.shape =
      (walker.visits disk base levels visit).map Visit.shape := by
  induction levels generalizing visit with
  | zero => rfl
  | succ levels ih =>
      rw [visits, visits, entered_shape, List.map_cons, List.map_flatMap, List.flatMap_map]
      simp only [ih]

/-- What a visit contributes is seen from the shape. -/
theorem attend_shape :
    walker.attend disk.shape base visit.shape = walker.attend disk base visit := by
  have found : ((visit.shape.others disk.shape base).map fun held =>
        walker.lookAt (base.below (visit.shape.names ++ [held.1])) held.2) =
      (visit.others disk base).map fun held =>
        walker.lookAt (base.below (visit.names ++ [held.1])) held.2 := by
    rw [Visit.others_shape, List.map_map]
    refine List.map_congr_left fun held _ => ?_
    exact walker.lookAt_shape _ held.2
  unfold attend
  rw [found, map_left_excluded_shape, kept_shape, List.isEmpty_map]
  rfl

/-- What a walk contributes is seen from the shape. -/
theorem walk_shape : walker.walk disk.shape base visit.shape = walker.walk disk base visit := by
  rw [walk, walk, visits_shape, List.map_map]
  congr 1
  refine List.map_congr_left fun below _ => ?_
  exact walker.attend_shape disk base below

end

/-- What a walk from a path contributes is seen from the shape. -/
theorem walkDirectory_shape (path : Path) :
    walker.walkDirectory disk.shape path = walker.walkDirectory disk path := by
  unfold walkDirectory
  rw [Disk.find_shape]
  rcases disk.find true path with error | ⟨place, _ | ⟨content | entries | target⟩, links⟩
  · cases error <;> rfl
  · rfl
  · rfl
  · exact walk_shape walker disk path ⟨[], place, links, entries⟩
  · rfl

/-- What a path contributes by `expandAt` is seen from the shape, if what `other` gives is. -/
theorem expandAt_shape (path : Path) {other : Option Entry → Expansion}
    (shaped : ∀ found?, other (found?.map Entry.shape) = other found?) :
    walker.expandAt disk.shape path other = walker.expandAt disk path other := by
  unfold expandAt
  rw [Disk.probe_shape, walkDirectory_shape]
  rcases disk.probe path with error | _ | ⟨content | entries | target⟩
  · rfl
  · rfl
  · exact congrArg Attempt.done (shaped (some (.file content)))
  · rfl
  · rfl

/-- What a path that fits a pattern contributes is seen from the shape. -/
theorem expandMatch_shape (path : Path) :
    walker.expandMatch disk.shape path = walker.expandMatch disk path :=
  walker.expandAt_shape disk path fun _ => rfl

/-- What a path that is a target contributes is seen from the shape. -/
theorem expandPath_shape (path : Path) :
    walker.expandPath disk.shape path = walker.expandPath disk path := by
  refine walker.expandAt_shape disk path fun found? => ?_
  rcases found? with _ | ⟨content | entries | target⟩ <;> rfl

/-- What a target contributes is seen from the shape. -/
theorem expand_shape (target : String) :
    walker.expand disk.shape target = walker.expand disk target := by
  unfold expand
  simp only [walkDirectory_shape, Disk.glob_shape, expandMatch_shape, expandPath_shape]

/-- What targets contribute by `expandAll` is seen from `disk.shape`. -/
theorem expandAll_shape (targets : List String) :
    walker.expandAll disk.shape targets = walker.expandAll disk targets := by
  induction targets with
  | nil => rfl
  | cons target rest ih => rw [expandAll, expandAll, expand_shape, ih]

end Walker

end Footgun
