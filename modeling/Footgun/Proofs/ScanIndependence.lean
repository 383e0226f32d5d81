import Footgun.Proofs.NulFree
import Footgun.Proofs.ScanSinks
import Footgun.Proofs.SelectionOrder

/-! # Files are scanned independently

A scan finds what there is in each selected file, one file after the other in the order of their
paths. What is found in a file depends on that file alone: if another one is written to, be it with
bytes that are no text or do not parse, the same files are selected and the same is found in them.
Main definitions:

* `elsewhere` — a finding is not in a file.

The main statement is `run_shows_each_file`. -/

namespace Footgun

open Syntax (Parser Tree)

/-! ## Writing to a file -/

namespace Disk

variable {disk other : Disk} {path : Path} {target place : List String} {old content : ByteArray}

/-- A path with `isFile` leads to a place with a file, and what is written to it is `put` there. -/
theorem exists_place_of_isFile (isFile : disk.isFile path) :
    ∃ place old, disk.place? path = some place ∧ descend disk.root place = some (.file old) ∧
      ∀ content, disk.write path content = .ok (disk.put place (.file content)) := by
  unfold Disk.isFile Disk.found? at isFile
  cases leads : disk.find true path with
  | error error =>
      rw [leads] at isFile
      cases isFile
  | ok located =>
      rw [leads] at isFile
      have here := found?_of_find leads
      -- Only a file is left of what `find` can lead to.
      obtain ⟨place, _ | ⟨old | entries | target⟩, links⟩ := located
      · cases isFile
      · refine ⟨place, old, ?_, here.symm, fun content => ?_⟩
        · rw [place?, leads]
          rfl
        · rw [write, leads]
          rfl
      · cases isFile
      · cases isFile

/-- Elsewhere than at `target` there is the same as before, but that directories above the file hold
the new one. -/
theorem descend_put_elsewhere (isFile : descend disk.root target = some (.file old))
    (content : ByteArray) (elsewhere : place ≠ target) :
    descend (disk.put target (.file content)).root place = descend disk.root place ∨
      ∃ before after, descend disk.root place = some (.directory before) ∧
        descend (disk.put target (.file content)).root place = some (.directory after) := by
  have free : IsFree disk.root target := ⟨hasParent_of_descend isFile, .inr ⟨old, isFile⟩⟩
  cases found : descend disk.root place with
  | none =>
      -- What is missing stays missing, as the shape is the same.
      have shaped := congrArg (fun disk => descend disk.root place) (shape_put isFile content)
      change descend (disk.put target (.file content)).root.shape place =
        descend disk.root.shape place at shaped
      rw [descend_shape, descend_shape, found, Option.map_none, Option.map_eq_none_iff] at shaped
      exact .inl shaped
  | some entry =>
      cases entry with
      | file bytes => exact .inl (free.descend_put_of_ne found (by simp) elsewhere)
      | link path => exact .inl (free.descend_put_of_ne found (by simp) elsewhere)
      | directory entries =>
          obtain ⟨after, stays⟩ := free.directory_put found
          exact .inr ⟨entries, after, rfl, stays⟩

/-- If `path` does not lead to `target`, the size and the bytes there are the same as before. -/
theorem size_and_read_put (isFile : descend disk.root target = some (.file old))
    (content : ByteArray) (elsewhere : disk.place? path ≠ some target) :
    (disk.put target (.file content)).size path = disk.size path ∧
      (disk.put target (.file content)).read path = disk.read path := by
  -- Look-ups lead to the same places, since writing to a file keeps the shape of the disk.
  have shaped : ((disk.put target (.file content)).find true path).map Located.shape =
      (disk.find true path).map Located.shape := by
    rw [← find_shape, ← find_shape, shape_put isFile]
  unfold size read
  cases leads : disk.find true path with
  | error error =>
      rw [leads] at shaped
      rw [eq_error_of_map_eq_error shaped]
      exact ⟨rfl, rfl⟩
  | ok located =>
      rw [leads] at shaped
      obtain ⟨after, leadsAfter, same⟩ := exists_of_map_eq_ok shaped
      have samePlace : after.shape.place = located.shape.place := congrArg Located.place same
      have different : located.place ≠ target := by
        rintro rfl
        exact elsewhere (by rw [place?, leads]; rfl)
      have here := found?_of_find leads
      have there := found?_of_find leadsAfter
      rw [show after.place = located.place from samePlace] at there
      rw [leadsAfter]
      -- At another place there is the same file as before, or a directory both times.
      rcases descend_put_elsewhere isFile content different with equal | ⟨_, _, before, after⟩
      · rw [ok_bind, ok_bind, ok_bind, ok_bind, here, there, equal]
        exact ⟨rfl, rfl⟩
      · rw [ok_bind, ok_bind, ok_bind, ok_bind, here, there, before, after]
        exact ⟨rfl, rfl⟩

end Disk

/-- If `path` does not lead to `target`, the configuration file there gives the same
configuration. -/
theorem Config.loadFile_put {disk : Disk} {path : Path} {target : List String} {old : ByteArray}
    (isFile : Disk.descend disk.root target = some (.file old)) (content : ByteArray)
    (elsewhere : disk.place? path ≠ some target) :
    loadFile (disk.put target (.file content)) path = loadFile disk path := by
  have shaped : ((disk.put target (.file content)).probe path).map (Option.map Entry.shape) =
      (disk.probe path).map (Option.map Entry.shape) := by
    rw [← Disk.probe_shape, ← Disk.probe_shape, Disk.shape_put isFile]
  unfold loadFile
  rw [(Disk.size_and_read_put isFile content elsewhere).2]
  -- Whether there is a configuration file is seen from the shape.
  cases probed : disk.probe path with
  | error error =>
      rw [probed] at shaped
      rw [eq_error_of_map_eq_error shaped]
  | ok found? =>
      rw [probed] at shaped
      obtain ⟨after, probedAfter, same⟩ := exists_of_map_eq_ok shaped
      rw [probedAfter]
      cases found? with
      | none =>
          rw [Option.map_none, Option.map_eq_none_iff] at same
          rw [same]
      | some entry =>
          obtain ⟨other, isOther, _⟩ := Option.map_eq_some_iff.mp same
          rw [isOther]

namespace Cli

variable {parser : Parser} {environment : Environment} {disk other : Disk} {options : ScanOptions}
  {plan : Plan} {files : List String} {file : String} {findings : List Finding}

/-! ## Selecting on disks of one shape -/

/-- The files of a plan depend on `disk.shape` only. -/
theorem Plan.filesOf_shape (plan : Plan) (disk : Disk) (targets : List String) :
    plan.filesOf disk.shape targets = plan.filesOf disk targets := by
  unfold filesOf Walker.select
  rw [Walker.expandAll_shape]

/-- What arguments ask for depends on `disk.shape` only. -/
theorem readRequest_shape (disk : Disk) (arguments : List String) :
    readRequest disk.shape arguments = readRequest disk arguments := by
  have same :
      ∀ options, directoryInTheWay? disk.shape options = directoryInTheWay? disk options := by
    intro options
    unfold directoryInTheWay?
    simp only [Disk.isDirectory_shape]
  unfold readRequest readScan
  simp only [same]

/-- On disks of one `shape` with the same configuration file, the same is `selected`. -/
theorem selected_of_shape_eq (same : other.shape = disk.shape)
    (config : Config.loadFile other ((Path.ofText options.root).child Config.fileName) =
      Config.loadFile disk ((Path.ofText options.root).child Config.fileName)) :
    selected environment other options = selected environment disk options := by
  have files :
      ∀ plan : Plan, plan.filesOf other options.targets = plan.filesOf disk options.targets := by
    intro plan
    rw [← plan.filesOf_shape other, same, plan.filesOf_shape]
  unfold selected Config.load
  simp only [config, files]

/-- The files that are `selected` are in the strict order of their paths, and hold no NUL. -/
theorem pairwise_and_noNul_of_selected (free : disk.root.NulFree)
    (chosen : selected environment disk options = .ok (plan, files)) :
    files.Pairwise (· < ·) ∧ ∀ file ∈ files, '\x00' ∉ file.toList := by
  -- The files come from the last of the three steps of `selected`.
  obtain ⟨loaded, _, chosen⟩ := exists_of_bind_eq_ok chosen
  obtain ⟨made, _, chosen⟩ := exists_of_bind_eq_ok chosen
  obtain ⟨list, listed, chosen⟩ := exists_of_bind_eq_ok chosen
  cases chosen
  rw [Plan.filesOf] at listed
  split at listed
  · cases listed
  · obtain ⟨selection, selects, rfl⟩ := exists_of_map_eq_ok listed
    refine ⟨?_, fun file member => Walker.nul_not_mem_of_mem_select free selects member⟩
    rw [Walker.select] at selects
    split at selects
    · cases selects
      exact Walker.pairwise_lt_sortDistinct _
    · cases selects

/-! ## The findings in a file -/

/-- If the trees of scripts fit them, a file whose path holds no NUL is always scanned. -/
theorem Plan.exists_findingsOf (plan : Plan) (disk : Disk)
    (fits : ∀ content, (parser.tree .bash content).Fits content) (noNul : '\x00' ∉ file.toList) :
    ∃ findings, plan.findingsOf parser disk file = .ok findings := by
  have written : '\x00' ∉ (Path.ofText file).text.toList := by
    rwa [Path.nul_mem_text_ofText_iff]
  have ends : ∃ result, Scan.scanFile parser disk plan.rules plan.resolvePaths (some plan.limit)
      (Path.ofText file) = .ok result := by
    cases read : Scan.readFile disk (some plan.limit) (Path.ofText file) with
    | error obstacle =>
        obtain ⟨result, gives, _⟩ := Scan.exists_ending_of_obstacle written read
        exact ⟨result, gives⟩
    | ok content =>
        obtain ⟨result, gives, _⟩ := Scan.exists_ending_of_readFile (fun _ => fits content) read
        exact ⟨result, gives⟩
  obtain ⟨result, gives⟩ := ends
  exact ⟨result.1, by rw [findingsOf, gives]; rfl⟩

/-- The findings in a file depend on its size and its bytes. -/
theorem Plan.findingsOf_congr (size : other.size (Path.ofText file) = disk.size (Path.ofText file))
    (read : other.read (Path.ofText file) = disk.read (Path.ofText file)) :
    plan.findingsOf parser other file = plan.findingsOf parser disk file := by
  unfold findingsOf Scan.scanFile Scan.readFile Scan.checkSize Scan.readText
  simp only [size, read]

/-- Nothing is found in a file whose bytes are no text. -/
theorem Plan.findingsOf_of_noText (plan : Plan) (parser : Parser) {bytes : ByteArray}
    (read : disk.read (Path.ofText file) = .ok bytes) (noText : Text.decode? bytes = none) :
    plan.findingsOf parser disk file = .ok [] := by
  have content : Scan.readText disk (Path.ofText file) = .error .noText := by
    rw [Scan.readText, read]
    simp only [noText]
  rw [findingsOf, Scan.scanFile, Scan.readFile, content, Scan.checkSize, Disk.size_of_read read]
  by_cases large : plan.limit.excludes bytes.size
  · simp only [large, if_true]
    rfl
  · simp only [large]
    rfl

/-- The findings of `scanLines` name its path. -/
theorem path_of_mem_scanLines {rule : Rule} {path : String} {number : Nat}
    {lines : List (List Char)} {finding : Finding}
    (member : finding ∈ Scan.scanLines rule path number lines) : finding.path = path := by
  induction lines generalizing number with
  | nil => cases member
  | cons line rest ih =>
      rw [Scan.scanLines] at member
      rcases List.mem_append.mp member with here | later
      · obtain ⟨hit, _, rfl⟩ := List.mem_map.mp here
        rfl
      · exact ih later

/-- The findings of `scanContent` name its path. -/
theorem path_of_mem_scanContent {rules : RuleSet} {resolvePaths : Bool} {path content : String}
    {events : List Journal.Event} {finding : Finding}
    (scanned : Scan.scanContent parser rules resolvePaths path content = .ok (findings, events))
    (member : finding ∈ findings) : finding.path = path := by
  rcases Scan.scanContent_eq_ok scanned with same | ⟨script, same⟩ | ⟨commands, same⟩
  · cases same
    exact path_of_mem_scanLines member
  · cases same
    obtain ⟨entry, _, rfl⟩ := List.mem_map.mp member
    rfl
  · cases same
    obtain ⟨command, _, rfl⟩ := List.mem_map.mp member
    rfl

/-- The findings of `findingsOf` a file name its path. -/
theorem Plan.path_of_mem_findingsOf {finding : Finding}
    (found : plan.findingsOf parser disk file = .ok findings) (member : finding ∈ findings) :
    finding.path = (Path.ofText file).text := by
  obtain ⟨⟨list, events⟩, scanned, rfl⟩ := exists_of_map_eq_ok found
  rw [Scan.scanFile] at scanned
  split at scanned
  · cases scanned
  · cases scanned
    cases member
  · split at scanned
    · rename_i result
      cases scanned
      exact path_of_mem_scanContent result member
    · cases scanned
      cases member
    · cases scanned

/-! ## Findings in other files -/

/-- The `finding` is in a file at another place than the one that `file` leads to. -/
def elsewhere (disk : Disk) (file : String) (finding : Finding) : Bool :=
  disk.place? (Path.ofText finding.path) ≠ disk.place? (Path.ofText file)

/-- The findings of `findingsOf` a file are `elsewhere` than at `changed` exactly if the file is. -/
theorem Plan.elsewhere_of_mem_findingsOf {finding : Finding} {changed : String}
    (found : plan.findingsOf parser other file = .ok findings) (member : finding ∈ findings) :
    elsewhere disk changed finding ↔
      disk.place? (Path.ofText file) ≠ disk.place? (Path.ofText changed) := by
  rw [elsewhere, path_of_mem_findingsOf found member, Path.ofText_text (Path.normal_ofText file),
    decide_eq_true_eq]

/-! ## Two Makefiles -/

/-- A disk with two Makefiles. -/
def makefiles : Disk :=
  { root := .directory [("Makefile", .file hazardousText.toByteArray),
      ("oldMakefile", .file hazardousText.toByteArray)] }

/-- A request to scan both `makefiles`. -/
def bothMakefiles : ScanOptions :=
  ⟨["oldMakefile", "Makefile"], none, none, none, none, "."⟩

/-- The parser that finds nothing in any text. -/
def blankParser : Parser :=
  ⟨fun _ _ => Scan.branch "program" 0 0 "" []⟩

/-- The trees of `blankParser` fit every text. -/
theorem fits_blankParser (content : String) : (blankParser.tree .bash content).Fits content := by
  intro node member
  cases List.mem_singleton.mp member
  have start : Syntax.IsBoundary content 0 := String.Pos.Raw.isValid_zero
  exact ⟨start, start, Nat.le_refl _, fun _ child => absurd child List.not_mem_nil, fun isString =>
    absurd isString (by decide)⟩

/-- The disk `makefiles` is `NulFree`. -/
theorem nulFree_makefiles : makefiles.root.NulFree := by
  have empty : (Entry.directory []).NulFree :=
    .directory (fun _ member => absurd member List.not_mem_nil)
      (fun _ member => absurd member List.not_mem_nil)
  exact Entry.nulFree_cons.mpr ⟨by decide, .file _,
    Entry.nulFree_cons.mpr ⟨by decide, .file _, empty⟩⟩

/-- A plain name leads to one of the two `makefiles` or nowhere. -/
theorem find_makefiles {name : String} (plain : Disk.IsPlainName name) :
    makefiles.find true ⟨"", [name]⟩ = .ok ⟨[name],
      if name = "Makefile" ∨ name = "oldMakefile" then some (.file hazardousText.toByteArray)
      else none, Disk.maxLinks⟩ := by
  have held : [("Makefile", Entry.file hazardousText.toByteArray),
      ("oldMakefile", .file hazardousText.toByteArray)].lookup name =
      if name = "Makefile" ∨ name = "oldMakefile" then some (.file hazardousText.toByteArray)
      else none := by
    rw [List.lookup_cons, List.lookup_cons]
    by_cases new : name = "Makefile"
    · simp [new]
    · by_cases old : name = "oldMakefile"
      · simp [old]
      · simp [new, old, beq_false_of_ne new, beq_false_of_ne old]
  have noLink : ∀ target, [("Makefile", Entry.file hazardousText.toByteArray),
      ("oldMakefile", .file hazardousText.toByteArray)].lookup name ≠ some (.link target) := by
    intro target
    rw [held]
    split <;> simp
  rw [makefiles, Disk.find_name plain noLink, held]

/-- Each of the `makefiles` contributes itself. -/
theorem expand_makefiles {name : String} (isName : name = "Makefile" ∨ name = "oldMakefile") :
    standardPlan.walker.expand makefiles name =
      .done (standardPlan.walker.walkFile ⟨"", [name]⟩) := by
  have plain : Disk.IsPlainName name ∧ Path.ofText name = ⟨"", [name]⟩ ∧
      Walker.recursiveBase? name = none ∧ hasMagic name.toList = false := by
    rcases isName with rfl | rfl <;> decide
  obtain ⟨plain, place, noDots, noMagic⟩ := plain
  have found :
      makefiles.probe (Path.ofText name) = .ok (some (.file hazardousText.toByteArray)) := by
    rw [place, Disk.probe, find_makefiles plain, if_pos isName]
  rw [Walker.expand_of_probe_file noDots noMagic found, place]

/-- Both `makefiles` are `selected` by the standard plan, in order. -/
theorem selected_bothMakefiles :
    selected [] makefiles bothMakefiles = .ok (standardPlan, ["Makefile", "oldMakefile"]) := by
  -- There is no configuration file on the disk.
  have config : Config.load makefiles [] "." = .ok (.standard, []) := by
    refine Config.load_of_missing ?_
    rw [show (Path.ofText ".").child Config.fileName = ⟨"", [Config.fileName]⟩ by decide,
      Disk.probe, find_makefiles (by decide), if_neg (by decide)]
  have targets : standardPlan.walker.expandAll makefiles ["oldMakefile", "Makefile"] =
      ([("oldMakefile", standardPlan.walker.walkFile ⟨"", ["oldMakefile"]⟩),
        ("Makefile", standardPlan.walker.walkFile ⟨"", ["Makefile"]⟩)], none) := by
    rw [Walker.expandAll_cons (expand_makefiles (.inr rfl)),
      Walker.expandAll_cons (expand_makefiles (.inl rfl))]
    rfl
  -- The targets are given in the other order, and sorted.
  have names : (Walker.gather .zero
      [("oldMakefile", standardPlan.walker.walkFile ⟨"", ["oldMakefile"]⟩),
        ("Makefile", standardPlan.walker.walkFile ⟨"", ["Makefile"]⟩)]).files =
      ["Makefile", "oldMakefile"] := by
    have joined : (Expansion.join [standardPlan.walker.walkFile ⟨"", ["oldMakefile"]⟩,
        standardPlan.walker.walkFile ⟨"", ["Makefile"]⟩]).files = ["oldMakefile", "Makefile"] := by
      decide
    refine (Walker.pairwise_lt_sortDistinct _).eq_of_mem_iff (by decide) fun file => ?_
    rw [Walker.mem_sortDistinct]
    change file ∈ (Expansion.join [_, _]).files ↔ _
    rw [joined]
    simp [or_comm]
  have files : standardPlan.filesOf makefiles ["oldMakefile", "Makefile"] =
      .ok ["Makefile", "oldMakefile"] := by
    rw [Plan.filesOf, if_neg (fun broken => Bool.noConfusion broken.1), Walker.select, targets]
    exact congrArg Except.ok names
  have made : Plan.make .standard bothMakefiles = .ok standardPlan :=
    make_standard ["oldMakefile", "Makefile"] none "."
  rw [selected, show bothMakefiles.root = "." from rfl, config, ok_bind, made, ok_bind,
    show bothMakefiles.targets = ["oldMakefile", "Makefile"] from rfl, files]
  rfl

/-- A plain name leads to the place of that name. -/
theorem place?_makefiles {name : String} (plain : Disk.IsPlainName name) :
    makefiles.place? ⟨"", [name]⟩ = some [name] := by
  rw [Disk.place?, find_makefiles plain]
  rfl

/-- The finding in a file with `hazardousText`. -/
def removalIn (file : String) : Finding :=
  ⟨file, ⟨2, 2⟩, "rm -rf", ""⟩

/-- In each of the `makefiles` there is the finding `removalIn` it. -/
theorem findingsOf_makefiles {name : String} (isName : name = "Makefile" ∨ name = "oldMakefile") :
    standardPlan.findingsOf blankParser makefiles name = .ok [removalIn name] := by
  have plain : Disk.IsPlainName name ∧ Path.ofText name = ⟨"", [name]⟩ ∧
      FileKind.ofPath (Path.ofText name).text = .makefile ∧
      Scan.scanMakefile standardPlan.rules (Path.ofText name).text
        (String.ofList (Text.foldNewlines hazardousText.toList)) = [removalIn name] := by
    rcases isName with rfl | rfl <;> decide
  obtain ⟨plain, place, kind, found⟩ := plain
  have read : makefiles.read (Path.ofText name) = .ok hazardousText.toByteArray := by
    rw [place, Disk.read, find_makefiles plain, if_pos isName]
    rfl
  rw [standardPlan.findingsOf_makefile blankParser kind (by decide) read, found]

/-- The arguments ask for a scan of `bothMakefiles`. -/
theorem readRequest_bothMakefiles :
    readRequest makefiles ["scan", "oldMakefile", "Makefile"] = .ok (.scan bothMakefiles) := by
  have outer : splitArguments outerShapes false ["scan", "oldMakefile", "Makefile"] =
      .ok ⟨[], ["scan", "oldMakefile", "Makefile"]⟩ := eq_ok_of_toOption_eq_some (by decide)
  have inner : splitArguments scanShapes true ["oldMakefile", "Makefile"] =
      .ok ⟨[], ["oldMakefile", "Makefile"]⟩ := eq_ok_of_toOption_eq_some (by decide)
  have read : readScan makefiles ["oldMakefile", "Makefile"] = .ok (.scan bothMakefiles) := by
    rw [readScan, inner, ok_bind]
    rfl
  rw [readRequest, outer, ok_bind]
  exact read

/-! ## Runs -/

/-- Let the disk be `NulFree`, the trees of scripts fit them, and some `files` be `selected` for a
scan.

(1) The `files` are in the strict order of the code points of their paths, every one of them is
scanned, and the run `Shows` what is found in them together.

(2) Whatever `content` is written to one of them that is not where the configuration file is, the
arguments ask for the same, and the same `files` are `selected`. The run then `Shows` what is found
in them.

(3) In the files at other places the same is found as before, so that the findings `elsewhere` are
the same in the same order. -/
theorem run_shows_each_file (parser : Parser) (environment : Environment) {arguments : List String}
    (free : disk.root.NulFree) (fits : ∀ content, (parser.tree .bash content).Fits content)
    (accepted : readRequest disk arguments = .ok (.scan options))
    (chosen : selected environment disk options = .ok (plan, files)) (matched : files ≠ []) :
    files.Pairwise (· < ·) ∧
    ∃ lists, files.mapM (plan.findingsOf parser disk) = .ok lists ∧
      Shows disk options files.length lists.flatten
        (run parser environment disk arguments).session ∧
      ∀ file ∈ files, ∀ content, disk.isFile (Path.ofText file) →
        disk.place? ((Path.ofText options.root).child Config.fileName) ≠
          disk.place? (Path.ofText file) →
        ∃ other changed, disk.write (Path.ofText file) content = .ok other ∧
          other.read (Path.ofText file) = .ok content ∧
          readRequest other arguments = .ok (.scan options) ∧
          selected environment other options = .ok (plan, files) ∧
          files.mapM (plan.findingsOf parser other) = .ok changed ∧
          Shows other options files.length changed.flatten
            (run parser environment other arguments).session ∧
          (∀ apart ∈ files, disk.place? (Path.ofText apart) ≠ disk.place? (Path.ofText file) →
            plan.findingsOf parser other apart = plan.findingsOf parser disk apart) ∧
          changed.flatten.filter (elsewhere disk file) =
            lists.flatten.filter (elsewhere disk file) := by
  obtain ⟨sorted, noNul⟩ := pairwise_and_noNul_of_selected free chosen
  have all : ∀ disk, ∃ lists, files.mapM (plan.findingsOf parser disk) = .ok lists := fun disk =>
    exists_mapM_eq_ok fun file member => plan.exists_findingsOf disk fits (noNul file member)
  obtain ⟨lists, scanned⟩ := all disk
  refine ⟨sorted, lists, scanned, shows_run accepted chosen matched scanned, ?_⟩
  intro file member content isFile configElsewhere
  obtain ⟨place, old, leads, here, writes⟩ := Disk.exists_place_of_isFile isFile
  rw [leads] at configElsewhere
  -- The shape of the disk stays, so the arguments are read as before and the same files are
  -- selected.
  have shape := Disk.shape_put here content
  obtain ⟨changed, scannedAgain⟩ := all (disk.put place (.file content))
  have acceptedAgain :
      readRequest (disk.put place (.file content)) arguments = .ok (.scan options) := by
    rw [← readRequest_shape, shape, readRequest_shape, accepted]
  have chosenAgain : selected environment (disk.put place (.file content)) options =
      .ok (plan, files) := by
    rw [selected_of_shape_eq shape (Config.loadFile_put here content configElsewhere), chosen]
  have same : ∀ apart, disk.place? (Path.ofText apart) ≠ disk.place? (Path.ofText file) →
      plan.findingsOf parser (disk.put place (.file content)) apart =
        plan.findingsOf parser disk apart := by
    intro apart different
    rw [leads] at different
    obtain ⟨size, read⟩ := Disk.size_and_read_put here content different
    exact Plan.findingsOf_congr size read
  refine ⟨_, changed, writes content, Disk.read_of_write (writes content), acceptedAgain,
    chosenAgain, scannedAgain, shows_run acceptedAgain chosenAgain matched scannedAgain,
    fun apart _ => same apart, ?_⟩
  refine filter_flatten_eq_of_mapM (fun apart _ => ?_) scanned scannedAgain
  by_cases different : disk.place? (Path.ofText apart) = disk.place? (Path.ofText file)
  · -- Another path to the same place: none of its findings is elsewhere, before or after.
    refine .inr fun list found finding isFinding => ?_
    rcases found with before | after
    · rw [Plan.elsewhere_of_mem_findingsOf before isFinding]
      exact not_not_intro different
    · rw [Plan.elsewhere_of_mem_findingsOf after isFinding]
      exact not_not_intro different
  · exact .inl (same apart different)

/-- Both `makefiles` have a finding, which the run `Shows`. If bytes that are no text are written to
one of them, the run `Shows` the finding in the other one. -/
theorem run_shows_each_file_makefiles :
    makefiles.root.NulFree ∧ (∀ content, (blankParser.tree .bash content).Fits content) ∧
    readRequest makefiles ["scan", "oldMakefile", "Makefile"] = .ok (.scan bothMakefiles) ∧
    selected [] makefiles bothMakefiles = .ok (standardPlan, ["Makefile", "oldMakefile"]) ∧
    Shows makefiles bothMakefiles 2 [removalIn "Makefile", removalIn "oldMakefile"]
      (run blankParser [] makefiles ["scan", "oldMakefile", "Makefile"]).session ∧
    ∃ other, makefiles.write (Path.ofText "oldMakefile") ⟨#[0xFF]⟩ = .ok other ∧
      other.read (Path.ofText "oldMakefile") = .ok ⟨#[0xFF]⟩ ∧
      selected [] other bothMakefiles = .ok (standardPlan, ["Makefile", "oldMakefile"]) ∧
      Shows other bothMakefiles 2 [removalIn "Makefile"]
        (run blankParser [] other ["scan", "oldMakefile", "Makefile"]).session := by
  have newPath : Path.ofText "Makefile" = ⟨"", ["Makefile"]⟩ := by decide
  have oldPath : Path.ofText "oldMakefile" = ⟨"", ["oldMakefile"]⟩ := by decide
  have configPath : (Path.ofText bothMakefiles.root).child Config.fileName =
      ⟨"", [Config.fileName]⟩ := by decide
  have newPlace := place?_makefiles (show Disk.IsPlainName "Makefile" by decide)
  have oldPlace := place?_makefiles (show Disk.IsPlainName "oldMakefile" by decide)
  have configPlace := place?_makefiles (show Disk.IsPlainName Config.fileName by decide)
  have isFile : makefiles.isFile (Path.ofText "oldMakefile") := by
    rw [oldPath, Disk.isFile, Disk.found?, find_makefiles (by decide), if_pos (.inr rfl)]
  have inNew := findingsOf_makefiles (.inl rfl)
  have inOld := findingsOf_makefiles (.inr rfl)
  obtain ⟨_, lists, scanned, shown, rewritten⟩ :=
    run_shows_each_file blankParser [] nulFree_makefiles
    fits_blankParser readRequest_bothMakefiles selected_bothMakefiles (List.cons_ne_nil _ _)
  obtain ⟨other, changed, written, read, _, chosen, scannedAgain, shownAgain, same, _⟩ :=
    rewritten "oldMakefile" (by simp) ⟨#[0xFF]⟩ isFile (by
      rw [configPath, oldPath, configPlace, oldPlace]
      decide)
  have inNewAgain := same "Makefile" (by simp) (by
    rw [newPath, oldPath, newPlace, oldPlace]
    decide)
  have inOldAgain := standardPlan.findingsOf_of_noText blankParser read (by decide)
  -- The lists are the findings in each file, the first time and the second time.
  have both : lists = [[removalIn "Makefile"], [removalIn "oldMakefile"]] := by
    rw [List.mapM_cons, inNew, ok_bind, List.mapM_cons, inOld] at scanned
    exact (Except.ok.inj scanned).symm
  have one : changed = [[removalIn "Makefile"], []] := by
    rw [List.mapM_cons, inNewAgain, inNew, ok_bind, List.mapM_cons, inOldAgain] at scannedAgain
    exact (Except.ok.inj scannedAgain).symm
  subst both one
  exact ⟨nulFree_makefiles, fits_blankParser, readRequest_bothMakefiles,
    selected_bothMakefiles, shown, other, written, read, chosen, shownAgain⟩

end Cli

end Footgun
