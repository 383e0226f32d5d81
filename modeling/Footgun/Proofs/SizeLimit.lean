import Footgun.Proofs.FileEnding
import Footgun.Proofs.Samples

/-! # Scans with and without a size limit

A size limit leaves files out and does nothing else: a file below the limit is scanned as it is
without one. The limit itself is the first size that is left out, although the journal says of such
a file that it is larger. Main definitions:

* `Scan.skipEntry` — the entry of the journal about a file that is left out;
* `Scan.LeavesOut` — a scan finds nothing, and its journal says that the file is left out.

The main statement is `Scan.scanFile_eq_unlimited_iff`. -/

namespace Footgun.Scan

open Journal (Event Level)
open Syntax (Parser)

variable {parser : Parser} {disk : Disk} {rules : RuleSet} {resolvePaths : Bool} {limit : Limit}
  {path : Path}

/-! ## Reading with a limit -/

/-- Without a limit, `readFile` is `readText`. -/
@[simp] theorem readFile_none (disk : Disk) (path : Path) :
    readFile disk none path = readText disk path := rfl

/-- A file below the limit passes `checkSize`. -/
theorem checkSize_of_lt {size : Nat} (found : disk.size path = .ok size)
    (below : (size : Int) < limit.count) : checkSize disk (some limit) path = .ok () := by
  have passes : limit.excludes size = false := by
    rw [Limit.excludes, decide_eq_false_iff_not]
    omega
  rw [checkSize, found]
  simp [passes]

/-- A file that has the size of the limit or more fails `checkSize` with `.tooLarge`. -/
theorem checkSize_of_le {size : Nat} (found : disk.size path = .ok size)
    (reached : limit.count ≤ size) :
    checkSize disk (some limit) path = .error (.tooLarge limit) := by
  have excluded : limit.excludes size = true := by
    rw [Limit.excludes, decide_eq_true_iff]
    exact reached
  rw [checkSize, found]
  simp [excluded]

/-- A limit makes no difference to `readFile`, unless the file has a size that reaches it. -/
theorem readFile_some_eq_none
    (below : ∀ size, disk.size path = .ok size → (size : Int) < limit.count) :
    readFile disk (some limit) path = readFile disk none path := by
  rw [readFile_none, readFile]
  cases found : disk.size path with
  | ok size =>
      rw [checkSize_of_lt found (below size found)]
      rfl
  | error error =>
      -- What has no size cannot be read either, and both steps give the same reason.
      have refused : readText disk path = .error (.unreadable error) := by
        rw [readText, Disk.read_eq_error_of_size found]
      rw [checkSize, found, refused]
      rfl

/-! ## Scans -/

/-- The entry of the journal about the file at `path`, left out for its size. -/
def skipEntry (path : Path) (limit : Limit) : Level × String :=
  (.info, s!"Skipping {path.text}: larger than {limit.text} bytes")

/-- The scan with `result` leaves the file at `path` out for its size: it finds nothing, and its
journal says so. -/
def LeavesOut (path : Path) (limit : Limit) (result : Except Failure Findings) : Prop :=
  ∃ events, result = .ok ([], events) ∧ entries events = [startEntry path, skipEntry path limit]

/-- A file that has the size of the limit or more is left out, `LeavesOut`. -/
theorem leavesOut_of_le (parser : Parser) (rules : RuleSet) (resolvePaths : Bool) {size : Nat}
    (found : disk.size path = .ok size) (reached : limit.count ≤ size) :
    LeavesOut path limit (scanFile parser disk rules resolvePaths (some limit) path) := by
  have obstacle : readFile disk (some limit) path = .error (.tooLarge limit) := by
    rw [readFile, checkSize_of_le found reached]
    rfl
  refine ⟨[startEvent path, .skipped path.text limit], ?_, rfl⟩
  rw [scanFile, obstacle]
  rfl

/-- If no event after the start of a scan is of the level `.info`, none at all is. -/
theorem level_ne_info_of_mem_startEvent_cons {events : List Event}
    (later : ∀ event ∈ events, event.level ≠ .info) {event : Event}
    (told : event ∈ startEvent path :: events) : event.level ≠ .info := by
  rcases List.mem_cons.mp told with rfl | told
  · exact Level.noConfusion
  · exact later event told

/-- A scan without a limit tells nothing of the level `.info`. -/
theorem level_ne_info_of_unlimited {result : Findings}
    (scanned : scanFile parser disk rules resolvePaths none path = .ok result) {event : Event}
    (told : event ∈ result.2) : event.level ≠ .info := by
  rw [scanFile, readFile_none] at scanned
  cases read : readText disk path with
  | error obstacle =>
      rw [read] at scanned
      -- Only a text that cannot be had is in the way, never the size.
      have alarm : (obstacle.event path.text).level = .error := by
        rcases readText_eq_error read with ⟨error, _, rfl⟩ | ⟨bytes, _, _, rfl⟩
        · rfl
        · rfl
      have ending : result = ([], [startEvent path, obstacle.event path.text]) := by
        split at scanned
        · cases scanned
        · rename_i other
          cases other
          exact (Except.ok.inj scanned).symm
        · rename_i other
          cases other
      subst ending
      refine level_ne_info_of_mem_startEvent_cons (fun event told => ?_) told
      rw [List.mem_singleton.mp told, alarm]
      exact Level.noConfusion
  | ok content =>
      rw [read] at scanned
      dsimp only at scanned
      split at scanned
      · rename_i findings events inside
        cases scanned
        refine level_ne_info_of_mem_startEvent_cons (fun event told => ?_) told
        rcases level_of_mem_scanContent inside told with debug | warning
        · rw [debug]
          exact Level.noConfusion
        · rw [warning]
          exact Level.noConfusion
      · cases scanned
        refine level_ne_info_of_mem_startEvent_cons (fun event told => ?_) told
        rw [List.mem_singleton.mp told]
        exact Level.noConfusion
      · cases scanned

/-- A scan without a limit never has `LeavesOut`. -/
theorem not_leavesOut_unlimited (limit : Limit) :
    ¬ LeavesOut path limit (scanFile parser disk rules resolvePaths none path) := by
  rintro ⟨events, scanned, told⟩
  have skipped : skipEntry path limit ∈ entries events := by
    rw [told]
    exact List.mem_cons_of_mem _ (List.mem_singleton_self _)
  obtain ⟨event, member, same⟩ := List.mem_map.mp skipped
  exact level_ne_info_of_unlimited scanned member (congrArg Prod.fst same)

/-- A limit makes no difference to `scanFile` exactly if the file has no size that reaches it. -/
theorem scanFile_some_eq_none_iff :
    scanFile parser disk rules resolvePaths (some limit) path =
        scanFile parser disk rules resolvePaths none path ↔
      ∀ size, disk.size path = .ok size → (size : Int) < limit.count := by
  constructor
  · intro same size found
    by_contra reached
    have leftOut := leavesOut_of_le parser rules resolvePaths found (Int.not_lt.mp reached)
    rw [same] at leftOut
    exact not_leavesOut_unlimited limit leftOut
  · intro below
    rw [scanFile, scanFile, readFile_some_eq_none below]

/-! ## A Makefile on a disk -/

/-- A recipe that removes a directory, in nine bytes. -/
def recipeText : String :=
  "rm -rf a\n"

/-- A disk with nothing but `recipeText` on it. -/
def recipeDisk : Disk :=
  .ofFile "Makefile" recipeText.toByteArray

/-- On `recipeDisk` there is the Makefile. -/
theorem find_recipeDisk : recipeDisk.find true (Path.ofText "Makefile") =
    .ok ⟨["Makefile"], some (.file recipeText.toByteArray), Disk.maxLinks⟩ := by
  rw [show Path.ofText "Makefile" = ⟨"", ["Makefile"]⟩ by decide]
  exact Disk.find_ofFile_self (by decide) recipeText.toByteArray true

/-- The Makefile on `recipeDisk` has nine bytes. -/
theorem size_recipeDisk : recipeDisk.size (Path.ofText "Makefile") = .ok 9 := by
  rw [Disk.size, find_recipeDisk]
  rfl

/-! ## The difference that a limit makes -/

/-- What a size limit does to `scanFile`.

(1) The scan is the same with `some limit` and with `none` exactly if the file is smaller than the
limit or has no size at all.

(2) Of the files that are not larger than the limit, those of exactly its size are the only ones
that it makes a difference to.

(3) A file is left out, `LeavesOut`, exactly if its size is that of the limit or more.

(4) Without a limit, no file is left out. -/
theorem scanFile_eq_unlimited_iff (parser : Parser) (disk : Disk) (rules : RuleSet)
    (resolvePaths : Bool) (limit : Limit) (path : Path) :
    (scanFile parser disk rules resolvePaths (some limit) path =
        scanFile parser disk rules resolvePaths none path ↔
      ∀ size, disk.size path = .ok size → (size : Int) < limit.count) ∧
    (∀ size, disk.size path = .ok size → (size : Int) ≤ limit.count →
      (scanFile parser disk rules resolvePaths (some limit) path =
          scanFile parser disk rules resolvePaths none path ↔
        (size : Int) ≠ limit.count)) ∧
    (LeavesOut path limit (scanFile parser disk rules resolvePaths (some limit) path) ↔
      ∃ size, disk.size path = .ok size ∧ limit.count ≤ size) ∧
    ∀ other, ¬ LeavesOut path other (scanFile parser disk rules resolvePaths none path) := by
  refine ⟨scanFile_some_eq_none_iff, ?_, ?_, not_leavesOut_unlimited⟩
  · intro size found le
    rw [scanFile_some_eq_none_iff, found]
    constructor
    · intro below same
      have := below size rfl
      omega
    · intro different other same
      cases same
      omega
  · constructor
    · -- If no size reached the limit, the scan would be the one without a limit.
      intro leftOut
      by_contra none
      have below : ∀ size, disk.size path = .ok size → (size : Int) < limit.count := by
        intro size found
        by_contra reached
        exact none ⟨size, found, Int.not_lt.mp reached⟩
      rw [scanFile_some_eq_none_iff.mpr below] at leftOut
      exact not_leavesOut_unlimited limit leftOut
    · rintro ⟨size, found, reached⟩
      exact leavesOut_of_le parser rules resolvePaths found reached

/-- A recipe of nine bytes is left out under a limit of nine bytes, and reported without one. -/
theorem leavesOut_recipe_of_size_eq :
    recipeDisk.size (Path.ofText "Makefile") = .ok 9 ∧
    LeavesOut (Path.ofText "Makefile") (.bytes 9)
      (scanFile ⟨fun _ _ => wrappedTree⟩ recipeDisk .standard false (some (.bytes 9))
        (Path.ofText "Makefile")) ∧
    scanFile ⟨fun _ _ => wrappedTree⟩ recipeDisk .standard false none (Path.ofText "Makefile") =
      .ok ([⟨"Makefile", ⟨1, 1⟩, "rm -rf", ""⟩], [.handling .makefile "Makefile"]) := by
  refine ⟨size_recipeDisk, leavesOut_of_le _ _ _ size_recipeDisk (by decide), ?_⟩
  have text : readText recipeDisk (Path.ofText "Makefile") = .ok recipeText := by
    rw [readText, Disk.read, find_recipeDisk]
    exact eq_ok_of_toOption_eq_some (by decide)
  rw [scanFile, readFile_none, text]
  exact eq_ok_of_toOption_eq_some (by decide)

end Footgun.Scan
