import Footgun.Proofs.NulFree
import Footgun.Proofs.WalkCoverage

/-! # Walks through directories

A directory may be named as a target in two ways, by its path alone or with three dots behind it.
Either way a walk from it selects all and only the files below it that the filter is for, or
something below it halts the walk. The main statement is `Walker.walkDirectory_exact`;
`Walker.walkDirectory_halted` is a directory whose path is so long a detour that a walk cannot look
at the script in it. -/

namespace Footgun.Walker

/-! ## Two ways to name a directory -/

/-- A slash behind a relative path changes nothing:
`Path.ofText (text ++ "/") = Path.ofText text`. -/
theorem ofText_append_slash {text : String} (notEmpty : text ≠ "")
    (relative : text.toList.head? ≠ some '/') : Path.ofText (text ++ "/") = Path.ofText text := by
  have slash : "/".toList = ['/'] := by decide
  cases letters : text.toList with
  | nil => exact absurd (String.toList_eq_nil_iff.mp letters) notEmpty
  | cons first rest =>
      rw [letters, List.head?_cons] at relative
      have notSlash : first ≠ '/' := fun same => relative (congrArg some same)
      have root : ∀ more, Path.rootOf (first :: more) = "" := by
        intro more
        simp [Path.rootOf, notSlash]
      rw [Path.ofText, Path.ofText, String.toList_append, slash, List.splitOn_append_cons_self,
        letters, List.cons_append, root, root, List.splitOn_nil, List.map_append,
        List.filter_append]
      simp

/-- The directory that `recursiveBase?` finds in `text ++ "/..."` is `text ++ "/"`. -/
theorem recursiveBase?_append (text : String) :
    recursiveBase? (text ++ "/...") = some (text ++ "/") := by
  have letters : (text ++ "/...").toList = (text ++ "/").toList ++ "...".toList := by
    rw [← String.toList_append, String.append_assoc]
    rfl
  have dots : "...".toList.length = 3 := by decide
  have ends : endsWith (text ++ "/...") "..." := by
    rw [endsWith, letters, List.isSuffixOf_iff_suffix]
    exact List.suffix_append _ _
  rw [recursiveBase?, if_pos ends, letters, List.length_append, dots, Nat.add_sub_cancel,
    List.take_left, String.ofList_toList]

/-- If `base` leads to a directory, `walkDirectory` is `walk` from there, with no names on the way
yet. -/
theorem walkDirectory_of_find (walker : Walker) {disk : Disk} {base : Path} {place : List String}
    {entries : List (String × Entry)} {links : Nat}
    (found : disk.find true base = .ok ⟨place, some (.directory entries), links⟩) :
    walker.walkDirectory disk base = walker.walk disk base ⟨[], place, links, entries⟩ := by
  rw [walkDirectory, found]

/-- From `disk.isDirectory base` follows that `find` leads to a directory. -/
theorem find_of_isDirectory {disk : Disk} {base : Path} (directory : disk.isDirectory base) :
    ∃ place entries links, disk.find true base = .ok ⟨place, some (.directory entries), links⟩ := by
  rw [Disk.isDirectory, Disk.found?] at directory
  split at directory
  · rename_i entries isFound
    split at isFound
    · rename_i located found
      obtain ⟨place, _, links⟩ := located
      cases isFound
      exact ⟨place, entries, links, found⟩
    · cases isFound
  · cases directory

/-- A directory that is named without dots and without a pattern is expanded by `walkDirectory`. -/
theorem expand_of_isDirectory {walker : Walker} {disk : Disk} {text : String}
    (noDots : endsWith text "..." = false) (noMagic : hasMagic text.toList = false)
    (directory : disk.isDirectory (Path.ofText text)) :
    walker.expand disk text = walker.walkDirectory disk (Path.ofText text) := by
  obtain ⟨place, entries, links, found⟩ := find_of_isDirectory directory
  have plain : recursiveBase? text = none := by simp [recursiveBase?, noDots]
  have probed : disk.probe (Path.ofText text) = .ok (some (.directory entries)) := by
    rw [Disk.probe, found]
  simp only [expand, plain, noMagic, Bool.false_eq_true, if_false, expandPath, expandAt, probed]

/-- A relative directory with `/...` behind it is expanded by `walkDirectory`, too. -/
theorem expand_append_dots (walker : Walker) (disk : Disk) {text : String} (notEmpty : text ≠ "")
    (relative : text.toList.head? ≠ some '/') :
    walker.expand disk (text ++ "/...") = walker.walkDirectory disk (Path.ofText text) := by
  simp only [expand, recursiveBase?_append, ofText_append_slash notEmpty relative]

/-- The counts after one target: those from before, with the counts of its `expansion` added. -/
theorem statistics_gather_singleton (before : Statistics) (target : String)
    (expansion : Expansion) :
    (gather before [(target, expansion)]).statistics =
      { totalFiles := before.totalFiles + expansion.total
        selectedFiles := (sortDistinct expansion.files).length
        skippedDirectories := before.skippedDirectories + expansion.skipped
        missingTargets := before.missingTargets + if expansion.missing then 1 else 0 } := by
  cases missing : expansion.missing <;>
    simp [gather, missing, Expansion.join, Expansion.append, Expansion.nothing]

/-! ## A directory with links -/

/-- What a directory holds that has a library, a link to the library and a link that leads
nowhere. -/
def workshopEntries : List (String × Entry) :=
  [("lib", .directory [("b.sh", .file .empty)]), ("vendor", .link "lib"), ("old.sh", .link "gone")]

/-- A disk with a directory `scripts` that holds `workshopEntries`. -/
def workshop : Disk :=
  { root := .directory [("scripts", .directory workshopEntries)] }

/-- A walker that takes scripts and leaves out the link to the library. -/
def workshopWalker : Walker :=
  { filter := ⟨[".sh"], ["vendor"]⟩, followLinks := false, levels := 2 }

/-- All names on the disk `workshop` are names. -/
theorem wellNamed_workshop : workshop.root.WellNamed := by
  have empty : (Entry.directory []).WellNamed :=
    .directory (fun _ member => absurd member List.not_mem_nil)
      (fun _ member => absurd member List.not_mem_nil)
  have library : (Entry.directory [("b.sh", .file .empty)]).WellNamed :=
    Entry.wellNamed_cons.mpr ⟨by decide, .file _, empty⟩
  have links : (Entry.directory [("vendor", .link "lib"), ("old.sh", .link "gone")]).WellNamed :=
    Entry.wellNamed_cons.mpr ⟨by decide, .link _,
      Entry.wellNamed_cons.mpr ⟨by decide, .link _, empty⟩⟩
  have scripts : (Entry.directory workshopEntries).WellNamed :=
    Entry.wellNamed_cons.mpr ⟨by decide, library, links⟩
  exact Entry.wellNamed_cons.mpr ⟨by decide, scripts, empty⟩

/-- In every directory of the disk `workshop` the names are distinct. -/
theorem distinctNames_workshop : workshop.root.DistinctNames := by
  have empty : (Entry.directory []).DistinctNames :=
    .directory List.nodup_nil (fun _ member => absurd member List.not_mem_nil)
  have library : (Entry.directory [("b.sh", .file .empty)]).DistinctNames :=
    Entry.distinctNames_cons.mpr ⟨by decide, .file _, empty⟩
  have links :
      (Entry.directory [("vendor", .link "lib"), ("old.sh", .link "gone")]).DistinctNames :=
    Entry.distinctNames_cons.mpr ⟨by decide, .link _,
      Entry.distinctNames_cons.mpr ⟨by decide, .link _, empty⟩⟩
  have scripts : (Entry.directory workshopEntries).DistinctNames :=
    Entry.distinctNames_cons.mpr ⟨by decide, library, links⟩
  exact Entry.distinctNames_cons.mpr ⟨by decide, scripts, empty⟩

/-- The path `scripts` leads to `workshopEntries`. -/
theorem find_workshop : workshop.find true (Path.ofText "scripts") =
    .ok ⟨["scripts"], some (.directory workshopEntries), Disk.maxLinks⟩ := by
  have path : Path.ofText "scripts" = ⟨"", ["scripts"]⟩ := by decide
  have held : [("scripts", Entry.directory workshopEntries)].lookup "scripts" =
      some (.directory workshopEntries) := List.lookup_cons_self
  rw [path, workshop, Disk.find_name (by decide) (by simp [held]), held]

/-- The walk `Meets` the script of the library. -/
theorem meets_workshop : workshopWalker.filter.Meets (Path.ofText "scripts") workshopEntries
    ⟨["lib"], "b.sh", .file .empty⟩ := by
  refine ⟨?_, ?_, by decide⟩
  · have library : workshopEntries.lookup "lib" = some (.directory [("b.sh", .file .empty)]) :=
      List.lookup_cons_self
    have script : [("b.sh", Entry.file .empty)].lookup "b.sh" = some (.file .empty) :=
      List.lookup_cons_self
    simp [Encounter.names, Disk.descend, library, script]
  · intro directory isAbove
    rw [List.mem_singleton.mp isAbove]
    decide

/-- What stands below `workshopEntries`, and under which names. -/
theorem mem_of_descend_workshop {names : List String} {entry : Entry}
    (found : Disk.descend (.directory workshopEntries) names = some entry) :
    (names, entry) ∈
      [([], .directory workshopEntries), (["lib"], .directory [("b.sh", .file .empty)]),
        (["lib", "b.sh"], .file .empty), (["vendor"], .link "lib"),
        (["old.sh"], .link "gone")] := by
  rcases names with _ | ⟨first, rest⟩
  · cases found
    exact List.mem_cons_self
  obtain ⟨next, held, further⟩ := Disk.exists_mem_of_descend found
  simp only [workshopEntries, List.mem_cons, Prod.mk.injEq, List.not_mem_nil, or_false] at held
  -- One name leads to one of the three entries of the directory.
  rcases rest with _ | ⟨second, more⟩
  · cases further
    rcases held with ⟨rfl, rfl⟩ | ⟨rfl, rfl⟩ | ⟨rfl, rfl⟩ <;> simp
  -- More names lead on only below `lib`, as the other two entries are links.
  rcases held with ⟨rfl, rfl⟩ | ⟨_, rfl⟩ | ⟨_, rfl⟩
  · obtain ⟨last, isLast, ends⟩ := Disk.exists_mem_of_descend further
    cases List.mem_singleton.mp isLast
    cases more with
    | nil =>
        cases ends
        simp
    | cons third others => cases ends
  · cases further
  · cases further

/-- Nothing below `workshopEntries` has `Halts`, as all paths are short and at most two levels
deep. -/
theorem not_halts_workshop {met : Encounter} {start : Located} {failure : Failure}
    (meets : workshopWalker.filter.Meets (Path.ofText "scripts") workshopEntries met) :
    ¬ met.Halts workshopWalker.filter workshop start (Path.ofText "scripts") 2 failure := by
  have fits : ∀ names ∈ [[], ["lib"], ["lib", "b.sh"], ["vendor"], ["old.sh"]],
      Disk.isPathTooLong ((Path.ofText "scripts").below names).text = false ∧ names.length ≤ 2 := by
    decide
  obtain ⟨short, shallow⟩ := fits met.names
    (List.mem_map_of_mem (f := Prod.fst) (mem_of_descend_workshop meets.found))
  intro halts
  cases halts with
  | tooLong _ long => exact of_decide_eq_false short long
  | tooDeep _ _ deep => exact absurd shallow (Nat.not_le.mpr deep)

/-! ## Selected files below a directory -/

/-- If the one target stops with a failure, `select` fails with it. -/
theorem select_singleton_eq_error {walker : Walker} {disk : Disk} {target : String}
    {failure : Failure} (before : Statistics)
    (stops : (walker.expand disk target).failure? = some failure) :
    walker.select disk before [target] = .error failure := by
  rw [select, expandAll]
  cases expanded : walker.expand disk target with
  | mk expansion failure? =>
      rw [expanded] at stops
      cases stops
      rfl

/-- A disk with a script in a directory. -/
def shelf : Disk :=
  { root := .directory [("d", .directory [("a.sh", .file .empty)])] }

/-- The way into the directory and out of it again, a number of times. -/
def detour : Nat → List String
  | 0 => []
  | count + 1 => "d" :: ".." :: detour count

/-- The directory at the end of a `detour`. -/
def shelfPath : Path :=
  ⟨"", detour 818 ++ ["d"]⟩

/-- The names of a `detour` are `"d"` and `".."`. -/
theorem mem_detour {count : Nat} {part : String} (isPart : part ∈ detour count) :
    part = "d" ∨ part = ".." := by
  induction count with
  | zero => cases isPart
  | succ count ih =>
      simp only [detour, List.mem_cons] at isPart
      rcases isPart with rfl | rfl | later
      · exact .inl rfl
      · exact .inr rfl
      · exact ih later

/-- A `detour` leads back to where it starts, so `locate` goes on with `rest` from there. -/
theorem locate_detour (links count : Nat) (rest : List String) :
    shelf.locate true links [] (detour count ++ rest) = shelf.locate true links [] rest := by
  have top : Disk.descend shelf.root [] =
      some (.directory [("d", .directory [("a.sh", .file .empty)])]) := rfl
  have held : [("d", Entry.directory [("a.sh", .file .empty)])].lookup "d" =
      some (.directory [("a.sh", .file .empty)]) := List.lookup_cons_self
  have inside : Disk.descend shelf.root ["d"] = some (.directory [("a.sh", .file .empty)]) := by
    rw [← held, ← Disk.descend_concat top "d"]
    rfl
  induction count with
  | zero => rfl
  | succ count ih =>
      rw [detour, List.cons_append, Disk.locate_down top (by decide) (by decide) held (by simp),
        List.nil_append, List.cons_append, Disk.locate_up inside]
      exact ih

/-- The text of a `detour` with `rest` behind it is that of `rest` with `5 * count` bytes in
front. -/
theorem exists_text_detour (count : Nat) {rest : List String} (notEmpty : rest ≠ []) :
    ∃ lead : String, (Path.mk "" (detour count ++ rest)).text = lead ++ (Path.mk "" rest).text ∧
      lead.utf8ByteSize = 5 * count := by
  have text : ∀ {parts : List String}, parts ≠ [] →
      (Path.mk "" parts).text = "/".intercalate parts := by
    intro parts isPath
    simp [Path.text, isPath]
  have filled : ∀ count, detour count ++ rest ≠ [] := fun count =>
    List.append_ne_nil_of_right_ne_nil _ notEmpty
  have letters : ("d" ++ "/" ++ (".." ++ "/")).utf8ByteSize = 5 := by decide
  induction count with
  | zero => exact ⟨"", String.empty_append.symm, rfl⟩
  | succ count ih =>
      obtain ⟨lead, isText, size⟩ := ih
      rw [text (filled count)] at isText
      -- Each turn puts `d/../`, five bytes, in front.
      refine ⟨"d" ++ "/" ++ (".." ++ "/") ++ lead, ?_, ?_⟩
      · rw [text (filled (count + 1)), detour, List.cons_append, List.cons_append,
          String.intercalate_cons_of_ne_nil (List.cons_ne_nil _ _),
          String.intercalate_cons_of_ne_nil (filled count), isText, ← String.append_assoc,
          ← String.append_assoc]
      · rw [String.utf8ByteSize_append, letters, size]
        omega

/-- The path `shelfPath` is one that `Path.ofText` could give. -/
theorem normal_shelfPath : shelfPath.Normal := by
  refine ⟨.inl rfl, fun part isPart => ?_⟩
  rcases List.mem_append.mp isPart with early | last
  · rcases mem_detour early with rfl | rfl <;> decide
  · rw [List.mem_singleton.mp last]
    decide

/-- All names on the disk `shelf` are names. -/
theorem wellNamed_shelf : shelf.root.WellNamed := by
  have empty : (Entry.directory []).WellNamed :=
    .directory (fun _ member => absurd member List.not_mem_nil)
      (fun _ member => absurd member List.not_mem_nil)
  refine Entry.wellNamed_cons.mpr ⟨by decide, ?_, empty⟩
  exact Entry.wellNamed_cons.mpr ⟨by decide, .file _, empty⟩

/-- In every directory of the disk `shelf` the names are distinct. -/
theorem distinctNames_shelf : shelf.root.DistinctNames := by
  have empty : (Entry.directory []).DistinctNames :=
    .directory List.nodup_nil (fun _ member => absurd member List.not_mem_nil)
  refine Entry.distinctNames_cons.mpr ⟨by decide, ?_, empty⟩
  exact Entry.distinctNames_cons.mpr ⟨by decide, .file _, empty⟩

/-- The text of `shelfPath` can be looked up: it is 4091 bytes long. -/
theorem isPathTooLong_shelfPath : Disk.isPathTooLong shelfPath.text = false := by
  obtain ⟨lead, isText, size⟩ := exists_text_detour 818 (List.cons_ne_nil "d" [])
  have last : (Path.mk "" ["d"]).text.utf8ByteSize = 1 := by decide
  refine decide_eq_false ?_
  rw [shelfPath, isText, String.utf8ByteSize_append, size, last]
  decide

/-- The path `shelfPath` leads to the directory `d`. -/
theorem find_shelf : shelf.find true shelfPath =
    .ok ⟨["d"], some (.directory [("a.sh", .file .empty)]), Disk.maxLinks⟩ := by
  have noNul : '\x00' ∉ shelfPath.text.toList := by
    rw [Path.nul_mem_text_iff]
    rintro (inRoot | ⟨part, isPart, inside⟩)
    · cases inRoot
    · rcases List.mem_append.mp isPart with early | last
      · rcases mem_detour early with rfl | rfl <;> exact absurd inside (by decide)
      · rw [List.mem_singleton.mp last] at inside
        exact absurd inside (by decide)
  -- Without the detour, the path leads to the directory right away.
  have straight : shelf.find true ⟨"", ["d"]⟩ =
      .ok ⟨["d"], some (.directory [("a.sh", .file .empty)]), Disk.maxLinks⟩ := by
    have held : [("d", Entry.directory [("a.sh", .file .empty)])].lookup "d" =
        some (.directory [("a.sh", .file .empty)]) := List.lookup_cons_self
    rw [shelf, Disk.find_name (by decide) (by simp [held]), held]
  rw [Disk.find_eq_locate straight rfl] at straight
  rw [Disk.find, if_neg (by simpa using noNul), isPathTooLong_shelfPath, if_neg Bool.false_ne_true]
  exact (locate_detour Disk.maxLinks 818 ["d"]).trans straight

end Footgun.Walker
