import Footgun.Proofs.SelectionOrder
import Mathlib.Data.List.Induction

/-! # Counts of a walker

A walker counts on from call to call: the files that were looked at, the directories that were left
out and the targets that do not exist. The number of selected files is that of the last call alone.
A call that a target stops has counted what came before it. Main definitions:

* `Walker.Call` — a list of targets, and the disk at that time;
* `Walker.Account` — what a walker has counted and told since it was made;
* `Walker.enter`, `Walker.accountAfter` — the account after one call more, and after a history of
  calls.

The main statement is `Walker.statistics_consistent`. -/

namespace Footgun

open Journal (Event)

/-! ## What is counted -/

/-- The counts that go on from call to call have not decreased from `before` to `after`. -/
structure Statistics.GrowsTo (before after : Statistics) : Prop where
  /-- The files that were looked at. -/
  totalFiles : before.totalFiles ≤ after.totalFiles
  /-- The directories that were left out. -/
  skippedDirectories : before.skippedDirectories ≤ after.skippedDirectories
  /-- The targets that do not exist. -/
  missingTargets : before.missingTargets ≤ after.missingTargets

/-- Whether `event` is an error that says that a target was not found. -/
def Journal.Event.saysNotFound (event : Event) : Bool :=
  event.level == .error && "Target not found: ".toList.isPrefixOf event.message.toList

/-- The event `targetMissing` has `saysNotFound`. -/
theorem saysNotFound_targetMissing (target : String) :
    (Event.targetMissing target).saysNotFound := by
  have message :
      (Event.targetMissing target).message.toList =
        "Target not found: ".toList ++ target.toList := by
    rw [← String.toList_append]
    rfl
  rw [Journal.Event.saysNotFound, message, Bool.and_eq_true]
  exact ⟨rfl, List.isPrefixOf_iff_prefix.mpr (List.prefix_append _ _)⟩

/-! ## Contributions -/

namespace Expansion

/-- No more `files` are contributed than `total` says were looked at. -/
def Bounded (expansion : Expansion) : Prop :=
  expansion.files.length ≤ expansion.total

/-- What contributes `nothing` is `Bounded`. -/
theorem bounded_nothing : nothing.Bounded := Nat.le_refl 0

/-- What is `left` out is `Bounded`. -/
theorem bounded_left : left.Bounded := Nat.le_refl 0

/-- What is only `counted` is `Bounded`. -/
theorem bounded_counted : counted.Bounded := Nat.zero_le 1

/-- What is `absent` is `Bounded`. -/
theorem bounded_absent : absent.Bounded := Nat.le_refl 0

/-- A file that is `looked` at is `Bounded`: it contributes at most itself. -/
theorem bounded_looked (filter : Filter) (accepted : Bool) (path : String) :
    (looked filter accepted path).Bounded := by
  cases accepted with
  | false => exact Nat.zero_le 1
  | true => exact Nat.le_refl 1

/-- What is `Bounded` stays so with more that is `Bounded`. -/
theorem Bounded.append {first second : Expansion} (isFirst : first.Bounded)
    (isSecond : second.Bounded) : (first.append second).Bounded := by
  unfold Bounded at *
  rw [files_append, List.length_append]
  exact Nat.add_le_add isFirst isSecond

/-- Expansions that are `Bounded` are `Bounded` together. -/
theorem bounded_join {expansions : List Expansion}
    (each : ∀ expansion ∈ expansions, expansion.Bounded) : (join expansions).Bounded :=
  join_induction bounded_nothing (fun _ _ => Bounded.append) each

end Expansion

namespace Walker

variable {walker : Walker} {disk : Disk}

/-- The step `lookAt` is `Bounded`. -/
theorem bounded_lookAt (walker : Walker) (path : Path) (entry : Entry) :
    (walker.lookAt path entry).expansion.Bounded := by
  unfold lookAt
  split
  · exact Expansion.bounded_counted
  split
  · exact Expansion.bounded_counted
  · exact Expansion.bounded_looked _ _ _

/-- The step `attend` of a visit is `Bounded`. -/
theorem bounded_attend (walker : Walker) (disk : Disk) (base : Path) (visit : Visit) :
    (walker.attend disk base visit).expansion.Bounded := by
  have both :
      ∀ first second : Expansion, first.Bounded → second.Bounded → (first.append second).Bounded :=
    fun _ _ => Expansion.Bounded.append
  unfold attend
  -- A visit has three steps: the excluded directories, the other entries and the depth.
  refine Attempt.andThen_induction both ?_ (Attempt.andThen_induction both ?_ ?_)
  · refine Expansion.bounded_join fun expansion isLeft => ?_
    obtain ⟨_, _, rfl⟩ := List.mem_map.mp isLeft
    exact Expansion.bounded_left
  · refine Attempt.inTurn_induction Expansion.bounded_nothing both fun attempt isAttempt => ?_
    obtain ⟨held, _, rfl⟩ := List.mem_map.mp isAttempt
    exact walker.bounded_lookAt _ _
  · split
    · exact Expansion.bounded_nothing
    · exact Expansion.bounded_nothing

/-- The walk `walkDirectory` is `Bounded`: it contributes no more files than are looked at. -/
theorem bounded_walkDirectory (walker : Walker) (disk : Disk) (path : Path) :
    (walker.walkDirectory disk path).expansion.Bounded := by
  unfold walkDirectory
  split
  · refine Attempt.inTurn_induction Expansion.bounded_nothing (fun _ _ => Expansion.Bounded.append)
      fun attempt isAttempt => ?_
    obtain ⟨visit, _, rfl⟩ := List.mem_map.mp isAttempt
    exact walker.bounded_attend disk path visit
  · exact Expansion.bounded_nothing
  · exact Expansion.bounded_nothing

/-- What `expandAt` contributes is `Bounded`, if what it contributes for no directory is. -/
theorem bounded_expandAt {path : Path} {other : Option Entry → Expansion}
    (plain : ∀ found?, (other found?).Bounded) :
    (walker.expandAt disk path other).expansion.Bounded := by
  unfold expandAt
  split
  · exact Expansion.bounded_nothing
  · exact walker.bounded_walkDirectory disk path
  · exact plain _

/-- What `walkOther` contributes is `Bounded`. -/
theorem bounded_walkOther (walker : Walker) (path : Path) (found? : Option Entry) :
    (walker.walkOther path found?).Bounded := by
  unfold walkOther
  split
  · exact Expansion.bounded_looked _ _ _
  · exact Expansion.bounded_absent

/-- What `expand` contributes for a target is `Bounded`. -/
theorem bounded_expand (walker : Walker) (disk : Disk) (target : String) :
    (walker.expand disk target).expansion.Bounded := by
  unfold expand
  split
  · exact walker.bounded_walkDirectory disk _
  split
  · split
    · exact Expansion.bounded_nothing
    · refine Attempt.inTurn_induction Expansion.bounded_nothing
        (fun _ _ => Expansion.Bounded.append) fun attempt isAttempt => ?_
      obtain ⟨hit, _, rfl⟩ := List.mem_map.mp isAttempt
      exact bounded_expandAt fun _ => Expansion.bounded_looked _ _ _
  · exact bounded_expandAt (walker.bounded_walkOther _)

/-! ## One call -/

/-- Dropping repetitions makes a list no longer. -/
theorem length_dropRepeated_le (texts : List String) :
    (dropRepeated texts).length ≤ texts.length := by
  fun_induction dropRepeated texts with
  | case1 second rest ih => exact Nat.le_succ_of_le ih
  | case2 first second rest _ ih => exact Nat.succ_le_succ ih
  | case3 => exact Nat.le_refl _

/-- Sorting without repetitions makes a list no longer. -/
theorem length_sortDistinct_le (texts : List String) :
    (sortDistinct texts).length ≤ texts.length := by
  have shorter := length_dropRepeated_le (inOrder texts)
  rwa [inOrder, List.length_mergeSort] at shorter

/-- A list of targets, and the disk at that time. -/
structure Call where
  /-- Where the targets are looked for. -/
  disk : Disk
  /-- The targets. -/
  targets : List String

/-- What a walker has counted and told since it was made. -/
structure Account where
  /-- The counts. -/
  statistics : Statistics
  /-- What was told, in order. -/
  events : List Event

/-- The account after `call`. A target that stops the call leaves the number of selected files as it
was. -/
def enter (walker : Walker) (account : Account) (call : Call) : Account :=
  let (expansions, failure?) := walker.expandAll call.disk call.targets
  let selection := gather account.statistics expansions
  { statistics :=
      if failure?.isSome then
        { selection.statistics with selectedFiles := account.statistics.selectedFiles }
      else selection.statistics
    events := account.events ++ selection.events }

/-- The account after all `calls`, one by one. -/
def accountAfter (walker : Walker) (calls : List Call) : Account :=
  calls.foldl walker.enter ⟨.zero, []⟩

/-- The account after one call more is that of the call, entered into the account before it. -/
theorem accountAfter_concat (walker : Walker) (calls : List Call) (call : Call) :
    walker.accountAfter (calls ++ [call]) = walker.enter (walker.accountAfter calls) call := by
  rw [accountAfter, List.foldl_append]
  rfl

variable {account : Account} {call : Call} {selection : Selection}

/-- A call that gives a selection is entered with its statistics and its events. -/
theorem enter_of_select
    (selected : walker.select call.disk account.statistics call.targets = .ok selection) :
    walker.enter account call = ⟨selection.statistics, account.events ++ selection.events⟩ := by
  rw [select] at selected
  unfold enter
  split at selected
  · rename_i all
    cases selected
    rw [all]
    rfl
  · cases selected

/-- A call that is stopped leaves `selectedFiles` as it was. -/
theorem selectedFiles_enter_of_select_eq_error {failure : Failure}
    (stopped : walker.select call.disk account.statistics call.targets = .error failure) :
    (walker.enter account call).statistics.selectedFiles = account.statistics.selectedFiles := by
  rw [select] at stopped
  unfold enter
  split at stopped
  · cases stopped
  · rename_i all
    rw [all]
    rfl

/-- A call counts on, whether it is stopped or not: `GrowsTo` holds of the counts before and after
it. -/
theorem growsTo_enter (walker : Walker) (account : Account) (call : Call) :
    account.statistics.GrowsTo (walker.enter account call).statistics := by
  unfold enter
  rcases walker.expandAll call.disk call.targets with ⟨expansions, failure | failure⟩ <;>
    exact ⟨Nat.le_add_right _ _, Nat.le_add_right _ _, Nat.le_add_right _ _⟩

/-- The count `selectedFiles` of a selection is the number of its files. -/
theorem selectedFiles_of_select {before : Statistics} {targets : List String}
    (selected : walker.select disk before targets = .ok selection) :
    selection.statistics.selectedFiles = selection.files.length := by
  rw [select] at selected
  split at selected
  · cases selected
    rfl
  · cases selected

/-- A selection has no more files than `totalFiles` has grown by. -/
theorem totalFiles_of_select {before : Statistics} {targets : List String}
    (selected : walker.select disk before targets = .ok selection) :
    before.totalFiles + selection.files.length ≤ selection.statistics.totalFiles := by
  rw [select] at selected
  split at selected
  · rename_i expansions all
    cases selected
    have bounded : (Expansion.join (expansions.map (·.2))).Bounded := by
      refine Expansion.bounded_join fun expansion isExpansion => ?_
      obtain ⟨⟨target, _⟩, isEntry, rfl⟩ := List.mem_map.mp isExpansion
      obtain ⟨_, rfl⟩ := expand_of_mem_expandAll (by rw [all]; exact isEntry)
      exact walker.bounded_expand disk target
    have shorter := length_sortDistinct_le (Expansion.join (expansions.map (·.2))).files
    exact Nat.add_le_add_left (Nat.le_trans shorter bounded) _
  · cases selected

/-! ## A history of calls -/

/-- The count `missingTargets` grows by the number of events with `saysNotFound`. -/
theorem countP_events_gather (before : Statistics) (expansions : List (String × Expansion)) :
    (gather before expansions).statistics.missingTargets =
      before.missingTargets + (gather before expansions).events.countP Event.saysNotFound := by
  have all : (gather before expansions).events.countP Event.saysNotFound =
      (gather before expansions).events.length := by
    refine List.countP_eq_length.mpr fun event isEvent => ?_
    obtain ⟨entry, _, rfl⟩ := List.mem_map.mp isEvent
    exact saysNotFound_targetMissing entry.1
  rw [all]
  simp [gather]

/-- The account counts as many missing targets as it has events with `saysNotFound`. -/
def Account.Sound (account : Account) : Prop :=
  account.statistics.missingTargets = account.events.countP Event.saysNotFound

/-- A call keeps an account `Sound`. -/
theorem Account.Sound.enter (sound : account.Sound) (walker : Walker) (call : Call) :
    (walker.enter account call).Sound := by
  have counted (expansions : List (String × Expansion)) :
      (gather account.statistics expansions).statistics.missingTargets =
        (account.events ++ (gather account.statistics expansions).events).countP
          Event.saysNotFound := by
    rw [countP_events_gather, List.countP_append, sound]
  unfold Walker.enter
  rcases walker.expandAll call.disk call.targets with ⟨expansions, failure | failure⟩
  · exact counted expansions
  · exact counted expansions

/-- The account of a walker is `Sound` after all `calls`. The induction is on the last call. -/
theorem sound_accountAfter (walker : Walker) (calls : List Call) :
    (walker.accountAfter calls).Sound := by
  induction calls using List.reverseRecOn with
  | nil => rfl
  | append_singleton calls call ih =>
      rw [accountAfter_concat]
      exact ih.enter walker call

/-- Let a walker have been called for whatever `calls`, on whatever disks, and then be called for
`targets`.

(1) No count that goes on is smaller `after` than `before`, `GrowsTo`.

(2) `missingTargets` is the number of the events with `saysNotFound` since the walker was made.

(3) If no target is `Refused`, the call gives a selection, which the account enters. `selectedFiles`
is the number of its files, and there are no more of them than `totalFiles` has grown by.

(4) If a target is `Refused`, the call fails, and `selectedFiles` is as it was. -/
theorem statistics_consistent (walker : Walker) (calls : List Call) (disk : Disk)
    (targets : List String) :
    let before := walker.accountAfter calls
    let after := walker.accountAfter (calls ++ [⟨disk, targets⟩])
    before.statistics.GrowsTo after.statistics ∧
    after.statistics.missingTargets = after.events.countP Event.saysNotFound ∧
    ((∀ target ∈ targets, ¬ Refused walker disk target) →
      ∃ selection, walker.select disk before.statistics targets = .ok selection ∧
        after = ⟨selection.statistics, before.events ++ selection.events⟩ ∧
        after.statistics.selectedFiles = selection.files.length ∧
        selection.files.length ≤ after.statistics.totalFiles - before.statistics.totalFiles) ∧
    ((∃ target ∈ targets, Refused walker disk target) →
      ∃ failure, walker.select disk before.statistics targets = .error failure ∧
        after.statistics.selectedFiles = before.statistics.selectedFiles) := by
  intro before after
  have entered : after = walker.enter before ⟨disk, targets⟩ :=
    walker.accountAfter_concat calls ⟨disk, targets⟩
  refine ⟨?_, walker.sound_accountAfter _, ?_, ?_⟩
  · rw [entered]
    exact walker.growsTo_enter before ⟨disk, targets⟩
  · intro kept
    obtain ⟨selection, selected, _⟩ := exists_select_eq_ok walker before.statistics kept
    -- The account enters the selection, whose counts are known.
    have given : after = ⟨selection.statistics, before.events ++ selection.events⟩ :=
      entered.trans (enter_of_select selected)
    have counted := totalFiles_of_select selected
    refine ⟨selection, selected, given, ?_, ?_⟩
    · rw [given]
      exact selectedFiles_of_select selected
    · rw [given]
      exact Nat.le_sub_of_add_le' counted
  · rintro ⟨target, member, refused⟩
    obtain ⟨failure, stopped⟩ := exists_select_eq_error walker before.statistics member refused
    refine ⟨failure, stopped, ?_⟩
    rw [entered]
    exact selectedFiles_enter_of_select_eq_error stopped

/-! ## A call that is stopped and one that is not -/

/-- A target that has a contribution is not `Refused`. -/
theorem not_refused_of_expand {target : String} {expansion : Expansion}
    (expanded : walker.expand disk target = .done expansion) : ¬ Refused walker disk target :=
  (walker.expand_eq_done_iff disk target).mp ⟨expansion, expanded⟩

/-- On the disk `packages` there is no target `"scripts"`. -/
theorem expand_packages_missing (walker : Walker) :
    walker.expand packages "scripts" = .done .absent := by
  have path : Path.ofText "scripts" = ⟨"", ["scripts"]⟩ := by decide
  have held :
      [("node_modules", Entry.directory [("a.sh", .file .empty)])].lookup "scripts" = none := by
    have other : ("scripts" == "node_modules") = false := by decide
    rw [List.lookup_cons, other]
    rfl
  have found :
      packages.find true (Path.ofText "scripts") = .ok ⟨["scripts"], none, Disk.maxLinks⟩ := by
    rw [path, packages, Disk.find_name (by decide) (by simp [held]), held]
  rw [expand, show recursiveBase? "scripts" = none by decide]
  simp only [show hasMagic "scripts".toList = false by decide, Bool.false_eq_true, if_false]
  rw [expandPath, expandAt, Disk.probe, found]
  rfl

/-- A NUL stops a call on `packages`; the next one, with a target that does not exist and one that
does, counts on from there. -/
theorem statistics_consistent_packages :
    let walker := scriptWalker []
    let stopped : Call := ⟨packages, ["scripts", "\x00..."]⟩
    let after := walker.accountAfter [stopped, ⟨packages, ["scripts", "node_modules"]⟩]
    (∃ target ∈ stopped.targets, Refused walker packages target) ∧
    (∃ failure, walker.select packages .zero stopped.targets = .error failure) ∧
    (∀ target ∈ ["scripts", "node_modules"], ¬ Refused walker packages target) ∧
    (∃ selection, walker.select packages (walker.accountAfter [stopped]).statistics
      ["scripts", "node_modules"] = .ok selection ∧
      after.statistics.selectedFiles = selection.files.length) ∧
    after.statistics.missingTargets = after.events.countP Event.saysNotFound := by
  intro walker stopped after
  have dots : recursiveBase? "\x00..." = some "\x00" := by decide
  have refused : ∃ target ∈ stopped.targets, Refused walker packages target :=
    ⟨"\x00...", by simp [stopped], .recursive dots (by decide)⟩
  have kept : ∀ target ∈ ["scripts", "node_modules"], ¬ Refused walker packages target := by
    intro target member
    rcases List.mem_cons.mp member with rfl | member
    · exact not_refused_of_expand (walker.expand_packages_missing)
    · rw [List.mem_singleton.mp member]
      exact not_refused_of_expand (expand_packages [])
  obtain ⟨_, _, _, stops⟩ := walker.statistics_consistent [] packages stopped.targets
  obtain ⟨failure, isStopped, _⟩ := stops refused
  obtain ⟨_, missing, gives, _⟩ :=
    walker.statistics_consistent [stopped] packages ["scripts", "node_modules"]
  obtain ⟨selection, selected, _, count, _⟩ := gives kept
  exact ⟨refused, ⟨failure, isStopped⟩, kept, ⟨selection, selected, count⟩, missing⟩

end Walker

end Footgun
