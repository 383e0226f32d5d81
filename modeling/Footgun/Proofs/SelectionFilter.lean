import Footgun.Proofs.PathText
import Footgun.Proofs.Visits

/-! # Selected files and the filter

Which of the selected files pass the filter that selects them. A file that is named by itself is
asked whether it is accepted. A directory is walked without the excluded names below it, but nobody
asks for the names on the way to the directory where the walk starts. Main definitions:

* `Entry.WellNamed` — what a directory holds is found under names;
* `Filter.Reaches` — a walk from a directory comes to a file through names that are not excluded;
* `Walker.Start` — a walk for a target starts at a directory;
* `Path.IsAbove` — a directory is on the way to a file.

The main statement is `Walker.accepts_iff_of_mem_select`. -/

namespace Footgun

/-! ## Names on a disk -/

/-- Everything in a directory, and in those below it, is found under a name. -/
inductive Entry.WellNamed : Entry → Prop where
  /-- A file holds no names. -/
  | file (content : ByteArray) : WellNamed (.file content)
  /-- A link holds no names. -/
  | link (target : String) : WellNamed (.link target)
  /-- A directory holds names, and whatever has them is well named. -/
  | directory {entries : List (String × Entry)} (names : ∀ entry ∈ entries, Path.IsName entry.1)
      (below : ∀ entry ∈ entries, entry.2.WellNamed) : WellNamed (.directory entries)

/-- A directory is `WellNamed` exactly if its first name has `IsName`, and its first entry and the
rest are `WellNamed`. -/
theorem Entry.wellNamed_cons {name : String} {entry : Entry} {rest : List (String × Entry)} :
    (Entry.directory ((name, entry) :: rest)).WellNamed ↔
      Path.IsName name ∧ entry.WellNamed ∧ (Entry.directory rest).WellNamed := by
  constructor
  · intro named
    cases named with
    | directory names below =>
        refine ⟨names _ List.mem_cons_self, below _ List.mem_cons_self, .directory ?_ ?_⟩
        · exact fun other later => names other (List.mem_cons_of_mem _ later)
        · exact fun other later => below other (List.mem_cons_of_mem _ later)
  · rintro ⟨isName, first, named⟩
    cases named with
    | directory names below =>
        exact .directory (List.forall_mem_cons.mpr ⟨isName, names⟩)
          (List.forall_mem_cons.mpr ⟨first, below⟩)

/-- In a directory that is `WellNamed`, all names have `IsName`, and all entries are `WellNamed`. -/
theorem Entry.WellNamed.inside {entries : List (String × Entry)}
    (wellNamed : (Entry.directory entries).WellNamed) :
    ∀ held ∈ entries, Path.IsName held.1 ∧ held.2.WellNamed := by
  cases wellNamed with
  | directory names below => exact fun held isHeld => ⟨names held isHeld, below held isHeld⟩

namespace Disk

/-- What `disk.find` finds on a disk that is `WellNamed` is `WellNamed`. -/
theorem wellNamed_of_find {disk : Disk} {follow : Bool} {path : Path} {located : Located}
    {found : Entry} (wellNamed : disk.root.WellNamed) (there : disk.find follow path = .ok located)
    (isFound : located.found? = some found) : found.WellNamed :=
  descend_induction (fun _ named held isHeld => (named.inside held isHeld).2) wellNamed
    ((found?_of_find there).symm.trans isFound)

end Disk

/-! ## Walks -/

/-- A walk from `start` comes to `file`: the filter allows the file, and excludes no directory
between the start and the file. -/
def Filter.Reaches (filter : Filter) (start : Path) (file : String) : Prop :=
  ∃ between name, file = (Path.mk start.root (start.parts ++ between ++ [name])).text ∧
    filter.allows file ∧ Path.IsName name ∧
    ∀ directory ∈ between, Path.IsName directory ∧ filter.excludes directory = false

/-- The path `directory` is on the way to `file`. -/
def Path.IsAbove (directory : Path) (file : String) : Prop :=
  directory.root = (Path.ofText file).root ∧ directory.parts <+: (Path.ofText file).parts.dropLast

namespace Filter

variable {filter : Filter} {start : Path} {file name : String}

/-- The parts of a file that the filter `Reaches` from `start` are those of `start`, directories
that it does not exclude, and the name of the file. -/
theorem Reaches.ofText_eq (reaches : filter.Reaches start file) (normal : start.Normal) :
    ∃ between name, Path.ofText file = ⟨start.root, start.parts ++ between ++ [name]⟩ ∧
      ∀ directory ∈ between, filter.excludes directory = false := by
  obtain ⟨between, name, rfl, _, isName, names⟩ := reaches
  refine ⟨between, name, Path.ofText_text ⟨normal.root, ?_⟩, fun directory member =>
    (names directory member).2⟩
  intro part member
  rw [List.mem_append, List.mem_append, List.mem_singleton] at member
  obtain (above | inside) | rfl := member
  · exact normal.names part above
  · exact (names part inside).1
  · exact isName

/-- If the filter `Reaches` a file from `start`, `start` has `IsAbove` the file. -/
theorem Reaches.isAbove (reaches : filter.Reaches start file) (normal : start.Normal) :
    start.IsAbove file := by
  obtain ⟨between, name, path, _⟩ := reaches.ofText_eq normal
  rw [Path.IsAbove, path, List.dropLast_concat]
  exact ⟨rfl, List.prefix_append _ _⟩

/-- If the filter `Reaches` a file from `start` and excludes no part of `start`, it accepts the
file. -/
theorem Reaches.accepts (reaches : filter.Reaches start file) (normal : start.Normal)
    (kept : ∀ directory ∈ start.parts, filter.excludes directory = false) :
    filter.accepts file := by
  obtain ⟨between, name, path, names⟩ := reaches.ofText_eq normal
  obtain ⟨_, _, _, allowed, _⟩ := reaches
  rw [Filter.accepts, allowed, excludesAbove, path, List.dropLast_concat, Bool.true_and,
    Bool.not_eq_true', List.any_eq_false]
  intro directory member
  obtain above | behind := List.mem_append.mp member
  · simp [kept directory above]
  · simp [names directory behind]

/-- A file below an excluded directory is not accepted. -/
theorem not_accepts_of_isAbove {directory : Path} (above : directory.IsAbove file)
    (part : name ∈ directory.parts) (excluded : filter.excludes name) : ¬filter.accepts file := by
  intro accepted
  rw [Filter.accepts, Bool.and_eq_true, Bool.not_eq_true', excludesAbove,
    List.any_eq_false] at accepted
  exact accepted.2 name (above.2.subset part) excluded

end Filter

namespace Walker

variable {walker : Walker} {disk : Disk} {file : String}

/-- On a disk that is `WellNamed`, the filter `Reaches` every file that `walkDirectory`
contributes. -/
theorem reaches_of_mem_walkDirectory {path : Path} (wellNamed : disk.root.WellNamed)
    (member : file ∈ (walker.walkDirectory disk path).expansion.files) :
    walker.filter.Reaches path file := by
  unfold walkDirectory at member
  split at member
  · rename_i found
    obtain ⟨between, name, written, allowed, isName, names⟩ := exists_of_mem_files_walk
      Path.IsName (fun _ => Entry.WellNamed.inside) wellNamed
      (Disk.wellNamed_of_find wellNamed found rfl) rfl member
    refine ⟨between, name, ?_, allowed, isName, names⟩
    rw [written, Path.below, List.append_assoc]
  · cases member
  · cases member

/-- A file that `walkFile` contributes is accepted. -/
theorem accepts_of_mem_walkFile {path : Path} (member : file ∈ (walker.walkFile path).files) :
    walker.filter.accepts file := by
  rw [walkFile, Expansion.mem_files_looked] at member
  obtain ⟨accepted, rfl⟩ := member
  exact accepted

/-- A file that `walkOther` contributes is accepted. -/
theorem accepts_of_mem_walkOther {path : Path} {found? : Option Entry}
    (member : file ∈ (walker.walkOther path found?).files) : walker.filter.accepts file := by
  unfold walkOther at member
  split at member
  · exact accepts_of_mem_walkFile member
  · cases member

/-! ## Targets -/

/-- Putting texts in order keeps every one of them. -/
theorem mem_inOrder {text : String} {texts : List String} : text ∈ inOrder texts ↔ text ∈ texts :=
  (List.mergeSort_perm texts _).mem_iff

/-- A walk for `target` starts at a directory: at the one in front of three dots, at the target
itself if it is a directory, or at a directory that the target is a pattern for. -/
inductive Start (disk : Disk) (target : String) : Path → Prop where
  /-- The directory in front of three dots. -/
  | recursive {base : String} (dots : recursiveBase? target = some base) :
      Start disk target (Path.ofText base)
  /-- The target itself. -/
  | plain (noDots : recursiveBase? target = none) (noMagic : hasMagic target.toList = false)
      (directory : disk.isDirectory (Path.ofText target)) : Start disk target (Path.ofText target)
  /-- A directory that fits a pattern. -/
  | fitting {found : List String} {hit : String} (noDots : recursiveBase? target = none)
      (magic : hasMagic target.toList) (search : disk.glob target = .ok found) (isHit : hit ∈ found)
      (directory : disk.isDirectory (Path.ofText hit)) : Start disk target (Path.ofText hit)

/-- The `Start` of a walk is `Normal`. -/
theorem Start.normal {target : String} {start : Path} (starts : Start disk target start) :
    start.Normal := by
  cases starts with
  | recursive => exact Path.normal_ofText _
  | plain => exact Path.normal_ofText _
  | fitting => exact Path.normal_ofText _

/-- A path that `probe` finds a directory at has `isDirectory`. -/
theorem isDirectory_of_probe {path : Path} {entries : List (String × Entry)}
    (probed : disk.probe path = .ok (some (.directory entries))) : disk.isDirectory path := by
  rw [Disk.probe] at probed
  split at probed
  · rename_i located found
    have isDirectory := Except.ok.inj probed
    rw [Disk.isDirectory, Disk.found?, found]
    simp only [isDirectory]
  · cases probed
  · cases probed

/-- A file that `expandAt` contributes is accepted, or the filter `Reaches` it from the path, if
what is contributed for no directory is accepted. -/
theorem accepts_or_reaches_of_mem_expandAt {path : Path} {other : Option Entry → Expansion}
    (wellNamed : disk.root.WellNamed)
    (member : file ∈ (walker.expandAt disk path other).expansion.files)
    (plain : ∀ found?, file ∈ (other found?).files → walker.filter.accepts file) :
    walker.filter.accepts file ∨ disk.isDirectory path ∧ walker.filter.Reaches path file := by
  unfold expandAt at member
  split at member
  · cases member
  · rename_i probed
    exact .inr ⟨isDirectory_of_probe probed, reaches_of_mem_walkDirectory wellNamed member⟩
  · exact .inl (plain _ member)

/-- A file that `expand` contributes is accepted, or the filter `Reaches` it from a `Start` of the
target. -/
theorem accepts_or_reaches_of_mem_expand {target : String} (wellNamed : disk.root.WellNamed)
    (member : file ∈ (walker.expand disk target).expansion.files) :
    walker.filter.accepts file ∨
      ∃ start, Start disk target start ∧ walker.filter.Reaches start file := by
  unfold expand at member
  split at member
  · -- Three dots: the walk starts at the path in front of them.
    rename_i base dots
    exact .inr ⟨_, .recursive dots, reaches_of_mem_walkDirectory wellNamed member⟩
  rename_i noDots
  split at member
  · rename_i magic
    split at member
    · cases member
    · -- A pattern: each path that fits is a file of its own or the start of a walk.
      rename_i found search
      obtain ⟨attempt, isAttempt, inside⟩ := Attempt.exists_of_mem_files_inTurn member
      obtain ⟨hit, isHit, rfl⟩ := List.mem_map.mp isAttempt
      rw [expandMatch] at inside
      obtain accepted | ⟨directory, reaches⟩ := accepts_or_reaches_of_mem_expandAt wellNamed inside
        fun _ => accepts_of_mem_walkFile
      · exact .inl accepted
      · exact .inr ⟨_, .fitting noDots magic search (mem_inOrder.mp isHit) directory, reaches⟩
  · -- Any other target is the path itself.
    rename_i noMagic
    rw [expandPath] at member
    obtain accepted | ⟨directory, reaches⟩ := accepts_or_reaches_of_mem_expandAt wellNamed member
      fun _ => accepts_of_mem_walkOther
    · exact .inl accepted
    · exact .inr ⟨_, .plain noDots (Bool.eq_false_iff.mpr noMagic) directory, reaches⟩

/-! ## Lists of targets -/

/-- Repetitions are dropped, and nothing else. -/
theorem mem_dropRepeated {text : String} {texts : List String} :
    text ∈ dropRepeated texts ↔ text ∈ texts := by
  fun_induction dropRepeated texts with
  | case1 second rest ih => rw [ih]; simp
  | case2 first second rest _ ih => rw [List.mem_cons, ih, ← List.mem_cons]
  | case3 => rfl

/-- Sorting keeps every text. -/
theorem mem_sortDistinct {text : String} {texts : List String} :
    text ∈ sortDistinct texts ↔ text ∈ texts := by
  rw [sortDistinct, mem_dropRepeated, mem_inOrder]

/-- A target without dots and without a pattern that leads to a file contributes `walkFile` of
it. -/
theorem expand_of_probe_file {target : String} {bytes : ByteArray}
    (noDots : recursiveBase? target = none) (noMagic : hasMagic target.toList = false)
    (found : disk.probe (Path.ofText target) = .ok (some (.file bytes))) :
    walker.expand disk target = .done (walker.walkFile (Path.ofText target)) := by
  rw [expand, noDots]
  dsimp only
  rw [noMagic, if_neg Bool.false_ne_true, expandPath, expandAt, found]
  rfl

/-- A target that does not stop contributes before those after it. -/
theorem expandAll_cons {target : String} {expansion : Expansion}
    (expanded : walker.expand disk target = .done expansion) (rest : List String) :
    walker.expandAll disk (target :: rest) =
      ((target, expansion) :: (walker.expandAll disk rest).1, (walker.expandAll disk rest).2) := by
  rw [expandAll, expanded]
  rfl

/-- What `expandAll` contributes is contributed by one of the targets. -/
theorem expand_of_mem_expandAll {targets : List String} {target : String} {expansion : Expansion}
    (member : (target, expansion) ∈ (walker.expandAll disk targets).1) :
    target ∈ targets ∧ (walker.expand disk target).expansion = expansion := by
  induction targets with
  | nil => cases member
  | cons first rest ih =>
      rw [expandAll] at member
      split at member
      · rename_i expanded
        cases List.mem_singleton.mp member
        exact ⟨List.mem_cons_self, by rw [expanded]⟩
      · rename_i expanded
        obtain same | later := List.mem_cons.mp member
        · cases same
          exact ⟨List.mem_cons_self, by rw [expanded]⟩
        · obtain ⟨isTarget, gives⟩ := ih later
          exact ⟨List.mem_cons_of_mem _ isTarget, gives⟩

/-- A file of `select` is contributed by one of the targets. -/
theorem expand_of_mem_select {before : Statistics} {targets : List String} {selection : Selection}
    (selected : walker.select disk before targets = .ok selection)
    (member : file ∈ selection.files) :
    ∃ target ∈ targets, file ∈ (walker.expand disk target).expansion.files := by
  rw [select] at selected
  split at selected
  · rename_i expansions all
    cases selected
    rw [gather, mem_sortDistinct, Expansion.mem_files_join] at member
    obtain ⟨expansion, isExpansion, inside⟩ := member
    obtain ⟨⟨target, _⟩, isEntry, rfl⟩ := List.mem_map.mp isExpansion
    obtain ⟨isTarget, expanded⟩ := expand_of_mem_expandAll (by rw [all]; exact isEntry)
    exact ⟨target, isTarget, by rw [expanded]; exact inside⟩
  · cases selected

/-- One target contributes the whole selection. -/
theorem select_singleton {target : String} {expansion : Expansion} (before : Statistics)
    (expanded : walker.expand disk target = .done expansion) :
    walker.select disk before [target] = .ok (gather before [(target, expansion)]) := by
  rw [select, expandAll_cons expanded]
  rfl

/-- The files of one target are those that it contributes. -/
theorem mem_files_gather_singleton {before : Statistics} {target : String} {expansion : Expansion} :
    file ∈ (gather before [(target, expansion)]).files ↔ file ∈ expansion.files := by
  rw [gather, mem_sortDistinct]
  simp

/-! ## A directory of packages -/

/-- A disk with a script in a directory of packages. -/
def packages : Disk :=
  { root := .directory [("node_modules", .directory [("a.sh", .file .empty)])] }

/-- A walker for scripts that follows no links and leaves out the directories `excluded`. -/
def scriptWalker (excluded : List String) : Walker :=
  { filter := .ofLists [".sh"] excluded, followLinks := false, levels := 1 }

/-- What a walk on `packages` contributes. -/
def packageScript : Expansion where
  files := ["node_modules/a.sh"]
  rejected := []
  total := 1
  skipped := 0
  missing := false

/-- The disk `packages` is `WellNamed`. -/
theorem wellNamed_packages : packages.root.WellNamed := by
  have empty : (Entry.directory []).WellNamed :=
    .directory (fun _ member => absurd member List.not_mem_nil)
      (fun _ member => absurd member List.not_mem_nil)
  refine Entry.wellNamed_cons.mpr ⟨by decide, ?_, empty⟩
  exact Entry.wellNamed_cons.mpr ⟨by decide, .file _, empty⟩

/-- On the disk `packages`, `node_modules` leads to a directory with a script. -/
theorem find_packages : packages.find true (Path.ofText "node_modules") =
    .ok ⟨["node_modules"], some (.directory [("a.sh", .file .empty)]), Disk.maxLinks⟩ := by
  have path : Path.ofText "node_modules" = ⟨"", ["node_modules"]⟩ := by decide
  have held : [("node_modules", Entry.directory [("a.sh", .file .empty)])].lookup "node_modules" =
      some (.directory [("a.sh", .file .empty)]) := List.lookup_cons_self
  rw [path, packages, Disk.find_name (by decide) (by simp [held]), held]

/-- The walk takes the script, whatever directories are excluded. -/
theorem expand_packages (excluded : List String) :
    (scriptWalker excluded).expand packages "node_modules" = .done packageScript := by
  have allowed : (Filter.ofLists [".sh"] excluded).allows "node_modules/a.sh" := by
    show [".sh"].any (fun suffix => suffix ≠ "" && endsWith "node_modules/a.sh" suffix) = true
    decide
  have written : ((Path.ofText "node_modules").below ["a.sh"]).text = "node_modules/a.sh" := by
    decide
  have above : Disk.isPathTooLong ((Path.ofText "node_modules").written []) = false := by decide
  have short : Disk.isPathTooLong "node_modules/a.sh" = false := by decide
  rw [expand, show recursiveBase? "node_modules" = none by decide]
  simp only [show hasMagic "node_modules".toList = false by decide, Bool.false_eq_true, if_false]
  rw [expandPath, expandAt, Disk.probe, find_packages]
  dsimp only
  -- The walk visits the directory alone, and looks at the script in it.
  rw [walkDirectory, find_packages]
  simp [walk, visits, entered, kept, Walker.excluded, attend, Visit.directories, Visit.others,
    Visit.listed, Visit.below?, above, scriptWalker, lookAt, written, short, allowed, Entry.isLink,
    Attempt.inTurn_cons, Attempt.andThen, Attempt.done, Expansion.looked, Expansion.join,
    Expansion.append, Expansion.counted, Expansion.nothing, packageScript]

/-! ## Selected files -/

/-- Let a file be selected on a disk that is `WellNamed`. Its suffix is one that the filter allows.
The filter accepts the file exactly if it excludes no part of a `Start` of a walk that has `IsAbove`
the file: a walk that starts in or below an excluded directory takes files that are not accepted. -/
theorem accepts_iff_of_mem_select (before : Statistics) {targets : List String}
    {selection : Selection} (wellNamed : disk.root.WellNamed)
    (selected : walker.select disk before targets = .ok selection)
    (member : file ∈ selection.files) :
    walker.filter.allows file ∧
      (walker.filter.accepts file ↔ ∀ target ∈ targets, ∀ start, Start disk target start →
        start.IsAbove file → ∀ name ∈ start.parts, walker.filter.excludes name = false) := by
  obtain ⟨target, isTarget, inside⟩ := expand_of_mem_select selected member
  have route := accepts_or_reaches_of_mem_expand wellNamed inside
  refine ⟨?_, ?_, ?_⟩
  · obtain accepted | ⟨start, _, reaches⟩ := route
    · rw [Filter.accepts, Bool.and_eq_true] at accepted
      exact accepted.1
    · obtain ⟨_, _, _, allowed, _⟩ := reaches
      exact allowed
  · intro accepted other _ start _ above name part
    cases excluded : walker.filter.excludes name with
    | false => rfl
    | true => exact absurd accepted (Filter.not_accepts_of_isAbove above part excluded)
  · intro kept
    obtain accepted | ⟨start, starts, reaches⟩ := route
    · exact accepted
    · -- The walk has looked at the names behind its start, and the condition is about those before.
      have above := reaches.isAbove starts.normal
      exact reaches.accepts starts.normal (kept target isTarget start starts above)

/-- A walk on `packages` from a directory that is not excluded selects an accepted script. -/
theorem accepts_iff_of_mem_select_packages :
    ∃ selection, packages.root.WellNamed ∧
      (scriptWalker ["vendor/"]).select packages .zero ["node_modules"] =
        .ok selection ∧ "node_modules/a.sh" ∈ selection.files ∧
      (Filter.ofLists [".sh"] ["vendor/"]).allows "node_modules/a.sh" ∧
      ((Filter.ofLists [".sh"] ["vendor/"]).accepts "node_modules/a.sh" ↔
        ∀ target ∈ ["node_modules"], ∀ start, Start packages target start →
          start.IsAbove "node_modules/a.sh" →
            ∀ name ∈ start.parts, (Filter.ofLists [".sh"] ["vendor/"]).excludes name = false) := by
  have selected := select_singleton .zero (expand_packages ["vendor/"])
  have member : "node_modules/a.sh" ∈
      (gather .zero [("node_modules", packageScript)]).files :=
    mem_files_gather_singleton.mpr List.mem_cons_self
  exact ⟨_, wellNamed_packages, selected, member,
    accepts_iff_of_mem_select .zero wellNamed_packages selected member⟩

/-- A walk on `packages` from an excluded directory selects a script that the filter does not
accept. -/
theorem select_packages_of_excluded :
    ∃ selection,
      (scriptWalker ["node_modules"]).select packages .zero ["node_modules"] =
        .ok selection ∧ "node_modules/a.sh" ∈ selection.files ∧
      (Filter.ofLists [".sh"] ["node_modules"]).accepts "node_modules/a.sh" = false :=
  ⟨_, select_singleton .zero (expand_packages ["node_modules"]),
    mem_files_gather_singleton.mpr List.mem_cons_self, by decide⟩

end Walker

end Footgun
