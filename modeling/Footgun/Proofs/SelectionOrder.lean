import Footgun.Proofs.GlobSearch
import Footgun.Proofs.SelectionFilter
import Mathlib.Data.List.Sort

/-! # Selections and the order of targets

A selection depends on the set of its targets, and on nothing else about how they are listed: the
files that the targets contribute go into one list, which is sorted and has each file once. Targets
may overlap, as a file and its directory do. Main definitions:

* `Walker.HaltsAt` — a walk from a directory comes to something that halts it;
* `Walker.Refused` — a target that cannot be looked up, or the walk for which is halted, so that
  nothing is selected.

The main statement is `Walker.select_depends_on_members`. -/

namespace Footgun

namespace Walker

variable {walker : Walker} {disk : Disk} {target : String}

/-! ## Targets that are refused -/

/-- The walk from the directory `start` comes to something that `Halts` it. -/
def HaltsAt (walker : Walker) (disk : Disk) (start : Path) : Prop :=
  ∃ place entries links failure,
    disk.find true start = .ok ⟨place, some (.directory entries), links⟩ ∧
    walker.Halts disk start ⟨[], place, links, entries⟩ failure

/-- A walk with `HaltsAt` starts at a directory. -/
theorem HaltsAt.isDirectory {path : Path} (halts : walker.HaltsAt disk path) :
    disk.isDirectory path := by
  obtain ⟨place, entries, links, failure, found, _⟩ := halts
  unfold Disk.isDirectory Disk.found?
  rw [found]

/-- The `target` cannot be dealt with: there is a NUL in front of its three dots or in the
directories of a pattern, a name or a path on the way is too long, or a walk is halted
(`HaltsAt`). -/
inductive Refused (walker : Walker) (disk : Disk) (target : String) : Prop where
  /-- The directory in front of three dots holds a NUL. -/
  | recursive {base : String} (dots : recursiveBase? target = some base)
      (inside : '\x00' ∈ (Path.ofText base).text.toList)
  /-- A directory of a pattern holds a NUL. -/
  | fitting (noDots : recursiveBase? target = none) (magic : hasMagic target.toList)
      (search : disk.glob target = .error .nulInside)
  /-- The path is too long, or a name on the way is. -/
  | plain (noDots : recursiveBase? target = none) (noMagic : hasMagic target.toList = false)
      (tooLong : disk.find true (Path.ofText target) = .error .tooLong)
  /-- A path that fits a pattern is too long. -/
  | hit {found : List String} {hit : String} (noDots : recursiveBase? target = none)
      (magic : hasMagic target.toList) (search : disk.glob target = .ok found) (isHit : hit ∈ found)
      (tooLong : disk.find true (Path.ofText hit) = .error .tooLong)
  /-- A walk for the target is halted. -/
  | halted {start : Path} (starts : Start disk target start) (halts : walker.HaltsAt disk start)

section

variable {base : String}

/-- A target with three dots is `Refused` for a NUL in its `base`, or if the walk from there has
`HaltsAt`. -/
theorem refused_dots_iff (dots : recursiveBase? target = some base) :
    Refused walker disk target ↔
      '\x00' ∈ (Path.ofText base).text.toList ∨ walker.HaltsAt disk (Path.ofText base) := by
  constructor
  · intro refused
    -- The other constructors are about targets without three dots.
    cases refused with
    | recursive same inside =>
        cases dots.symm.trans same
        exact .inl inside
    | fitting noDots => cases dots.symm.trans noDots
    | plain noDots => cases dots.symm.trans noDots
    | hit noDots => cases dots.symm.trans noDots
    | halted starts halts =>
        cases starts with
        | recursive same =>
            cases dots.symm.trans same
            exact .inr halts
        | plain noDots => cases dots.symm.trans noDots
        | fitting noDots => cases dots.symm.trans noDots
  · rintro (inside | halts)
    · exact .recursive dots inside
    · exact .halted (.recursive dots) halts

/-- A pattern is `Refused` if `glob` fails, or for one of the paths that `glob` finds: it is too
long, or the walk from there has `HaltsAt`. -/
theorem refused_magic_iff (noDots : recursiveBase? target = none) (magic : hasMagic target.toList) :
    Refused walker disk target ↔
      disk.glob target = .error .nulInside ∨ ∃ found, disk.glob target = .ok found ∧ ∃ hit ∈ found,
        disk.find true (Path.ofText hit) = .error .tooLong ∨
        walker.HaltsAt disk (Path.ofText hit) := by
  constructor
  · intro refused
    -- Only the constructors about patterns without three dots remain.
    cases refused with
    | recursive dots => cases dots.symm.trans noDots
    | fitting _ _ search => exact .inl search
    | plain _ noMagic => cases magic.symm.trans noMagic
    | hit _ _ search isHit tooLong => exact .inr ⟨_, search, _, isHit, .inl tooLong⟩
    | halted starts halts =>
        cases starts with
        | recursive dots => cases dots.symm.trans noDots
        | plain _ noMagic => cases magic.symm.trans noMagic
        | fitting _ _ search isHit => exact .inr ⟨_, search, _, isHit, .inr halts⟩
  · rintro (search | ⟨found, search, hit, isHit, tooLong | halts⟩)
    · exact .fitting noDots magic search
    · exact .hit noDots magic search isHit tooLong
    · exact .halted (.fitting noDots magic search isHit halts.isDirectory) halts

/-- Any other target is `Refused` if it is too long, or if the walk from there has `HaltsAt`. -/
theorem refused_plain_iff (noDots : recursiveBase? target = none)
    (noMagic : hasMagic target.toList = false) :
    Refused walker disk target ↔
      disk.find true (Path.ofText target) = .error .tooLong ∨
      walker.HaltsAt disk (Path.ofText target) := by
  constructor
  · intro refused
    cases refused with
    | recursive dots => cases dots.symm.trans noDots
    | fitting _ magic => cases magic.symm.trans noMagic
    | plain _ _ tooLong => exact .inl tooLong
    | hit _ magic => cases magic.symm.trans noMagic
    | halted starts halts =>
        cases starts with
        | recursive dots => cases dots.symm.trans noDots
        | plain => exact .inr halts
        | fitting _ magic => cases magic.symm.trans noMagic
  · rintro (tooLong | halts)
    · exact .plain noDots noMagic tooLong
    · exact .halted (.plain noDots noMagic halts.isDirectory) halts

end

/-- The walk `walkDirectory` fails exactly if there is a NUL in the path or the walk has
`HaltsAt`. -/
theorem exists_failure?_walkDirectory_iff (walker : Walker) (disk : Disk) (path : Path) :
    (∃ failure, (walker.walkDirectory disk path).failure? = some failure) ↔
      '\x00' ∈ path.text.toList ∨ walker.HaltsAt disk path := by
  unfold walkDirectory HaltsAt
  rw [← Disk.find_eq_nulInside_iff disk true]
  cases found : disk.find true path with
  | error error => cases error <;> simp
  | ok located =>
      obtain ⟨place, _ | ⟨content | entries | target⟩, links⟩ := located
      · simp
      · simp
      · simp [exists_failure?_walk_iff]
      · simp

/-- The step `expandAt` fails exactly if the path is too long or the walk from there has
`HaltsAt`. -/
theorem exists_failure?_expandAt_iff (walker : Walker) (disk : Disk) (path : Path)
    (other : Option Entry → Expansion) :
    (∃ failure, (walker.expandAt disk path other).failure? = some failure) ↔
      disk.find true path = .error .tooLong ∨ walker.HaltsAt disk path := by
  have walked := walker.exists_failure?_walkDirectory_iff disk path
  rw [← Disk.find_eq_nulInside_iff disk true] at walked
  unfold expandAt Disk.probe
  unfold HaltsAt at walked ⊢
  cases found : disk.find true path with
  | error error => cases error <;> simp
  | ok located =>
      rw [found] at walked
      obtain ⟨place, _ | ⟨content | entries | target⟩, links⟩ := located
      · simp
      · simp
      · simpa using walked
      · simp

/-- The step `expand` fails exactly if the target is `Refused`. -/
theorem exists_failure?_expand_iff (walker : Walker) (disk : Disk) (target : String) :
    (∃ failure, (walker.expand disk target).failure? = some failure) ↔
      Refused walker disk target := by
  unfold expand
  -- The case splits are those of `expand`, each with its own description of `Refused`.
  cases dots : recursiveBase? target with
  | some base =>
      dsimp only
      rw [exists_failure?_walkDirectory_iff, refused_dots_iff dots]
  | none =>
      cases magic : hasMagic target.toList with
      | false =>
          dsimp only
          rw [if_neg Bool.false_ne_true, expandPath, exists_failure?_expandAt_iff,
            refused_plain_iff dots magic]
      | true =>
          rw [refused_magic_iff dots magic, if_pos rfl]
          cases search : disk.glob target with
          | error reason =>
              rw [Disk.glob_eq_error search]
              simp
          | ok found =>
              simp only [Attempt.exists_failure?_inTurn_iff, List.mem_map, mem_inOrder,
                exists_exists_and_eq_and, expandMatch, exists_failure?_expandAt_iff]
              simp

/-- The step `expand` has a contribution exactly if the target is not `Refused`. -/
theorem expand_eq_done_iff (walker : Walker) (disk : Disk) (target : String) :
    (∃ expansion, walker.expand disk target = .done expansion) ↔ ¬ Refused walker disk target := by
  rw [← exists_failure?_expand_iff]
  obtain ⟨expansion, _ | failure⟩ := walker.expand disk target
  · simp [Attempt.done]
  · simp [Attempt.done]

/-! ## Sorted lists -/

/-- A sorted list is strictly sorted once its repetitions are dropped. -/
theorem pairwise_lt_dropRepeated {texts : List String} (sorted : texts.Pairwise (· ≤ ·)) :
    (dropRepeated texts).Pairwise (· < ·) := by
  fun_induction dropRepeated texts with
  | case1 second rest ih => exact ih sorted.of_cons
  | case2 first second rest different ih =>
      refine List.pairwise_cons.mpr ⟨fun text member => ?_, ih sorted.of_cons⟩
      rw [mem_dropRepeated] at member
      have next : first ≤ second := List.rel_of_pairwise_cons sorted List.mem_cons_self
      -- The first text is below the second, which is not above any of the others.
      have below : first < second := by
        rcases String.le_total second first with back | forth
        · exact absurd (String.le_antisymm next back) different
        · exact String.not_le.mp fun back => different (String.le_antisymm next back)
      rcases List.mem_cons.mp member with rfl | later
      · exact below
      · have above : second ≤ text := List.rel_of_pairwise_cons sorted.of_cons later
        exact String.not_le.mp fun back =>
          String.not_le.mpr below (String.le_trans above back)
  | case3 short isShort =>
      rcases short with _ | ⟨text, _ | ⟨other, rest⟩⟩
      · exact .nil
      · exact List.pairwise_singleton _ _
      · exact absurd rfl (isShort text other rest)

/-- The list `sortDistinct texts` is in the strict order of the code points. -/
theorem pairwise_lt_sortDistinct (texts : List String) : (sortDistinct texts).Pairwise (· < ·) := by
  refine pairwise_lt_dropRepeated ?_
  have sorted : (texts.mergeSort fun first second => decide (first ≤ second)).Pairwise
      fun first second => decide (first ≤ second) = true :=
    List.pairwise_mergeSort (fun a b c => by simpa using String.le_trans)
      (fun a b => by simpa using String.le_total a b) texts
  exact sorted.imp of_decide_eq_true

/-! ## Lists of targets -/

/-- If no target is `Refused`, `expandAll` contributes for each target what `expand` does. -/
theorem expandAll_of_not_refused (walker : Walker) {targets : List String}
    (kept : ∀ target ∈ targets, ¬ Refused walker disk target) :
    (walker.expandAll disk targets).2 = none ∧
      ∀ target expansion, (target, expansion) ∈ (walker.expandAll disk targets).1 ↔
        target ∈ targets ∧ walker.expand disk target = .done expansion := by
  induction targets with
  | nil => exact ⟨rfl, by simp [expandAll]⟩
  | cons first rest ih =>
      -- The first target contributes, so `expandAll` goes on to the `rest`.
      obtain ⟨expansion, expanded⟩ :=
        (walker.expand_eq_done_iff disk first).mpr (kept first List.mem_cons_self)
      obtain ⟨whole, members⟩ := ih fun target member => kept target (List.mem_cons_of_mem _ member)
      rw [expandAll_cons expanded]
      refine ⟨whole, fun target other => ?_⟩
      rw [List.mem_cons, List.mem_cons, members]
      constructor
      · rintro (same | ⟨later, gives⟩)
        · cases same
          exact ⟨.inl rfl, expanded⟩
        · exact ⟨.inr later, gives⟩
      · rintro ⟨rfl | later, gives⟩
        · rw [expanded] at gives
          cases gives
          exact .inl rfl
        · exact .inr ⟨later, gives⟩

/-- If a target is `Refused`, `select` fails. -/
theorem exists_select_eq_error (walker : Walker) (before : Statistics) {targets : List String}
    (member : target ∈ targets) (refused : Refused walker disk target) :
    ∃ failure, walker.select disk before targets = .error failure := by
  have stops : (walker.expandAll disk targets).2 ≠ none := by
    induction targets with
    | nil => cases member
    | cons first rest ih =>
        rw [expandAll]
        -- Either the first target fails, or the one that is refused comes later.
        split
        · exact Option.some_ne_none _
        · rename_i expansion expanded
          rcases List.mem_cons.mp member with rfl | later
          · exact absurd refused ((walker.expand_eq_done_iff disk target).mp ⟨expansion, expanded⟩)
          · exact ih later
  rw [select]
  split
  · rename_i whole
    exact absurd (congrArg Prod.snd whole) stops
  · exact ⟨_, rfl⟩

/-- If no target is `Refused`, `select` gives the files that the targets contribute, in strict
order, and nothing else. -/
theorem exists_select_eq_ok (walker : Walker) (before : Statistics) {targets : List String}
    (kept : ∀ target ∈ targets, ¬ Refused walker disk target) :
    ∃ selection, walker.select disk before targets = .ok selection ∧
      selection.files.Pairwise (· < ·) ∧
      ∀ file, file ∈ selection.files ↔
        ∃ target ∈ targets, ∃ expansion, walker.expand disk target = .done expansion ∧
          file ∈ expansion.files := by
  obtain ⟨whole, members⟩ := expandAll_of_not_refused walker kept
  rw [select]
  cases all : walker.expandAll disk targets with
  | mk expansions failure? =>
      rw [all] at whole members
      cases whole
      refine ⟨_, rfl, pairwise_lt_sortDistinct _, fun file => ?_⟩
      rw [gather, mem_sortDistinct, Expansion.mem_files_join]
      constructor
      · rintro ⟨expansion, isExpansion, inside⟩
        obtain ⟨⟨target, _⟩, isEntry, rfl⟩ := List.mem_map.mp isExpansion
        obtain ⟨isTarget, expanded⟩ := (members _ _).mp isEntry
        exact ⟨target, isTarget, _, expanded, inside⟩
      · rintro ⟨target, isTarget, expansion, expanded, inside⟩
        have isEntry := (members target expansion).mpr ⟨isTarget, expanded⟩
        exact ⟨expansion, List.mem_map.mpr ⟨_, isEntry, rfl⟩, inside⟩

/-- A target contributes the files that it selects alone. -/
theorem mem_files_select_singleton_iff (before : Statistics) {file : String} :
    (∃ selection, walker.select disk before [target] = .ok selection ∧ file ∈ selection.files) ↔
      ∃ expansion, walker.expand disk target = .done expansion ∧ file ∈ expansion.files := by
  constructor
  · rintro ⟨selection, selected, member⟩
    obtain ⟨other, isOther, inside⟩ := expand_of_mem_select selected member
    cases List.mem_singleton.mp isOther
    by_cases refused : Refused walker disk target
    · -- A refused target stops the selection.
      obtain ⟨failure, failed⟩ := exists_select_eq_error walker before List.mem_cons_self refused
      rw [selected] at failed
      cases failed
    · obtain ⟨expansion, expanded⟩ := (walker.expand_eq_done_iff disk target).mpr refused
      rw [expanded] at inside
      exact ⟨expansion, expanded, inside⟩
  · rintro ⟨expansion, expanded, inside⟩
    exact ⟨_, select_singleton before expanded, mem_files_gather_singleton.mpr inside⟩

/-! ## Two spellings of a directory -/

/-- With three dots behind the directory, the walk on `packages` is the same. -/
theorem expand_packages_dots (excluded : List String) :
    (scriptWalker excluded).expand packages "node_modules/..." = .done packageScript := by
  have walked : (scriptWalker excluded).walkDirectory packages (Path.ofText "node_modules") =
      .done packageScript := by
    have plain := expand_packages excluded
    rw [expand, show recursiveBase? "node_modules" = none by decide] at plain
    simp only [show hasMagic "node_modules".toList = false by decide, Bool.false_eq_true,
      if_false] at plain
    rw [expandPath, expandAt, Disk.probe, find_packages] at plain
    exact plain
  have same : Path.ofText "node_modules/" = Path.ofText "node_modules" := by decide
  rw [expand, show recursiveBase? "node_modules/..." = some "node_modules/" by decide]
  dsimp only
  rw [same, walked]

/-! ## What a selection depends on -/

/-- A selection depends on the members of its list of targets alone.

(1) Either no target is `Refused`. Then `targets` and `others` with the same members select the same
files, whatever was counted before; the files are in the strict order of the code points of their
paths, and they are those that each target selects alone.

(2) Or a target is `Refused`, and nothing is selected for either list. -/
theorem select_depends_on_members (walker : Walker) (disk : Disk) (before earlier : Statistics)
    {targets others : List String} (same : ∀ target, target ∈ targets ↔ target ∈ others) :
    ((∀ target ∈ targets, ¬ Refused walker disk target) ∧
      ∃ selection repeated, walker.select disk before targets = .ok selection ∧
        walker.select disk earlier others = .ok repeated ∧ repeated.files = selection.files ∧
        selection.files.Pairwise (· < ·) ∧
        ∀ file, file ∈ selection.files ↔ ∃ target ∈ targets, ∃ alone,
          walker.select disk .zero [target] = .ok alone ∧ file ∈ alone.files) ∨
    ((∃ target ∈ targets, Refused walker disk target) ∧
      (∃ failure, walker.select disk before targets = .error failure) ∧
      ∃ failure, walker.select disk earlier others = .error failure) := by
  by_cases refused : ∃ target ∈ targets, Refused walker disk target
  · obtain ⟨target, member, isRefused⟩ := refused
    exact .inr ⟨⟨target, member, isRefused⟩, exists_select_eq_error walker before member isRefused,
      exists_select_eq_error walker earlier ((same target).mp member) isRefused⟩
  · have kept : ∀ target ∈ targets, ¬ Refused walker disk target :=
      fun target member isRefused => refused ⟨target, member, isRefused⟩
    have keptToo : ∀ target ∈ others, ¬ Refused walker disk target :=
      fun target member => kept target ((same target).mpr member)
    obtain ⟨selection, selected, sorted, members⟩ := exists_select_eq_ok walker before kept
    obtain ⟨repeated, selectedToo, sortedToo, membersToo⟩ :=
      exists_select_eq_ok walker earlier keptToo
    refine .inl ⟨kept, selection, repeated, selected, selectedToo, ?_, sorted, fun file => ?_⟩
    · -- Both lists are strictly sorted, so it is enough to compare their members.
      refine sortedToo.eq_of_mem_iff sorted fun file => ?_
      rw [members, membersToo]
      simp only [same]
    · rw [members]
      simp only [mem_files_select_singleton_iff]

/-- The directory of `packages` gives its script once, however often and in whatever spelling it is
listed. -/
theorem select_depends_on_members_packages :
    (∀ target, target ∈ ["node_modules", "node_modules/..."] ↔
      target ∈ ["node_modules/...", "node_modules", "node_modules/..."]) ∧
    ∃ selection repeated,
      (scriptWalker []).select packages .zero
        ["node_modules", "node_modules/..."] = .ok selection ∧
      (scriptWalker []).select packages ⟨3, 2, 1, 0⟩
        ["node_modules/...", "node_modules", "node_modules/..."] = .ok repeated ∧
      repeated.files = selection.files ∧ selection.files = ["node_modules/a.sh"] := by
  have same : ∀ target, target ∈ ["node_modules", "node_modules/..."] ↔
      target ∈ ["node_modules/...", "node_modules", "node_modules/..."] := by
    intro target
    simp only [List.mem_cons, List.not_mem_nil, or_false]
    tauto
  have selected : (scriptWalker []).select packages .zero
      ["node_modules", "node_modules/..."] = .ok (gather .zero
        [("node_modules", packageScript), ("node_modules/...", packageScript)]) := by
    rw [select, expandAll_cons (expand_packages []), expandAll_cons (expand_packages_dots [])]
    rfl
  refine ⟨same, ?_⟩
  rcases select_depends_on_members (scriptWalker []) packages .zero ⟨3, 2, 1, 0⟩
    same with ⟨_, selection, repeated, first, second, equal, _, _⟩ | ⟨_, ⟨failure, failed⟩, _⟩
  · refine ⟨selection, repeated, first, second, equal, ?_⟩
    rw [selected] at first
    cases first
    -- Both targets contribute the same script, which is sorted in once.
    refine (pairwise_lt_sortDistinct _).eq_of_mem_iff (List.pairwise_singleton _ _) fun file => ?_
    rw [mem_sortDistinct]
    simp [packageScript, Expansion.join]
  · rw [selected] at failed
    cases failed

end Walker

end Footgun
