import Footgun.Proofs.Encounters

/-! # What a walk covers

Every entry that a walk meets contributes by itself if no links are followed: a file is looked at, a
directory may be left out, and a link is one or the other by what it leads to. So the contribution
of a walk can be told from the tree below its start, unless something that the walk meets halts it:
a path that is too long to be looked at, or a directory that is too deep to be entered. Main
definitions:

* `Encounter.contribution` — what an entry contributes by itself;
* `Encounter.Halts` — an entry that a walk meets halts it;
* `Filter.Covers` — what a walk contributes is as the tree below its start says.

The main statements are `Walker.walk_eq_done`, `Walker.exists_met_of_halts` and
`Walker.covers_walk`. -/

namespace Footgun

/-! ## What entries contribute together -/

namespace Expansion

variable {α : Type} {contribution : α → Expansion} {test : α → Bool}

/-- Contributions may be put together in any grouping. -/
theorem append_assoc (first second third : Expansion) :
    (first.append second).append third = first.append (second.append third) := by
  simp [append, Nat.add_assoc, Bool.or_assoc]

/-- The contributions of two lists are put together one list after the other. -/
theorem join_append (first second : List Expansion) :
    join (first ++ second) = (join first).append (join second) := by
  induction first with
  | nil => exact (nothing_append _).symm
  | cons expansion rest ih => rw [List.cons_append, join_cons, join_cons, ih, append_assoc]

/-- What lists of contributions add up to is what their sums add up to. -/
theorem join_flatMap {β : Type} (items : List β) (parts : β → List Expansion) :
    join (items.flatMap parts) = join (items.map fun item => join (parts item)) := by
  induction items with
  | nil => rfl
  | cons item rest ih => rw [List.flatMap_cons, join_append, ih, List.map_cons, join_cons]

/-- Only `skipped`, the number of directories that were left out, is contributed. -/
def OnlySkips (expansion : Expansion) : Prop :=
  ∃ count, expansion = { nothing with skipped := count }

/-- A contribution with `OnlySkips` may be taken first. -/
theorem OnlySkips.append_comm {first : Expansion} (skips : first.OnlySkips) (second : Expansion) :
    second.append first = first.append second := by
  obtain ⟨count, rfl⟩ := skips
  simp [append, nothing, Nat.add_comm]

/-- Contributions with `OnlySkips` have `OnlySkips` together. -/
theorem OnlySkips.append {first second : Expansion} (skips : first.OnlySkips)
    (skipsToo : second.OnlySkips) : (first.append second).OnlySkips := by
  obtain ⟨count, rfl⟩ := skips
  obtain ⟨more, rfl⟩ := skipsToo
  exact ⟨count + more, by simp [Expansion.append, nothing]⟩

/-- The items that pass `test`, if they have `OnlySkips`, may be taken first. -/
theorem join_map_eq_filter (test : α → Bool)
    (skips : ∀ item, test item = true → (contribution item).OnlySkips) (items : List α) :
    join (items.map contribution) =
      (join ((items.filter test).map contribution)).append
        (join ((items.filter fun item => !test item).map contribution)) := by
  -- What passes the test adds up to a number of directories, which may change places.
  have only : ∀ items : List α, (join ((items.filter test).map contribution)).OnlySkips := by
    intro items
    refine join_induction ⟨0, rfl⟩ (fun _ _ => OnlySkips.append) fun expansion isPart => ?_
    obtain ⟨item, passes, rfl⟩ := List.mem_map.mp isPart
    exact skips item (List.mem_filter.mp passes).2
  induction items with
  | nil => exact (nothing_append _).symm
  | cons item rest ih =>
      rw [List.map_cons, join_cons, ih, ← append_assoc]
      cases passes : test item with
      | true => simp [passes, join_cons]
      | false =>
          -- The item goes behind the directories that are taken first.
          rw [(only rest).append_comm, append_assoc]
          simp [passes, join_cons]

/-- Items that contribute `nothing` need not be counted. -/
theorem join_map_ite (expansion : Expansion) (items : List α) :
    join (items.map fun item => if test item then expansion else nothing) =
      join ((items.filter test).map fun _ => expansion) := by
  induction items with
  | nil => rfl
  | cons item rest ih =>
      rw [List.map_cons, join_cons, ih]
      cases passes : test item with
      | true => simp [passes, join_cons]
      | false => simp [passes, nothing_append]

/-- Items that contribute a file each contribute their files together. -/
theorem files_join_map {file : α → String}
    (each : ∀ item, (contribution item).files = if test item then [file item] else [])
    (items : List α) : (join (items.map contribution)).files = (items.filter test).map file := by
  induction items with
  | nil => rfl
  | cons item rest ih =>
      rw [List.map_cons, join_cons, files_append, each, ih]
      cases passed : test item with
      | true => simp [passed]
      | false => simp [passed]

/-- Items that add one to a `count` each add how many they are. -/
theorem count_join_map {count : Expansion → Nat} (none : count nothing = 0)
    (sum : ∀ first second, count (first.append second) = count first + count second)
    (each : ∀ item, count (contribution item) = if test item then 1 else 0) (items : List α) :
    count (join (items.map contribution)) = (items.filter test).length := by
  induction items with
  | nil => exact none
  | cons item rest ih =>
      rw [List.map_cons, join_cons, sum, each, ih]
      cases passed : test item with
      | true => simp [passed, Nat.add_comm]
      | false => simp [passed]

end Expansion

namespace Encounter

variable (filter : Filter) (disk : Disk) (links : Nat) (place : List String) (base : Path)

/-- Whether the entry `met` is a file with a suffix that the filter allows. -/
def isSelected (met : Encounter) : Bool :=
  match met.entry with
  | .file _ => filter.allows (met.path base).text
  | _ => false

/-- An encounter `isSelected` exactly if it is a file that the filter allows. -/
theorem isSelected_iff (met : Encounter) :
    met.isSelected filter base ↔
      ∃ content, met.entry = .file content ∧ filter.allows (met.path base).text := by
  obtain ⟨above, name, _ | _ | target⟩ := met
  all_goals simp [isSelected]

/-- What the entry `met` contributes by itself. -/
def contribution (met : Encounter) : Expansion :=
  if met.leadsToDirectory disk links place base then
    if filter.excludes met.name then .left else .nothing
  else
    match met.entry with
    | .file _ => .looked filter (filter.allows (met.path base).text) (met.path base).text
    | _ => .counted

/-- The `contribution` of an encounter is its path, if it `isSelected`. -/
theorem files_contribution (met : Encounter) :
    (met.contribution filter disk links place base).files =
      if met.isSelected filter base then [(met.path base).text] else [] := by
  obtain ⟨above, name, _ | _ | target⟩ := met
  · rfl
  · simp only [contribution, leadsToDirectory, isSelected, if_true]
    cases filter.excludes name <;> rfl
  · simp only [contribution, isSelected]
    split
    · cases filter.excludes name <;> rfl
    · rfl

/-- The `contribution` of an encounter counts in `total` unless it has `leadsToDirectory`. -/
theorem total_contribution (met : Encounter) :
    (met.contribution filter disk links place base).total =
      if !met.leadsToDirectory disk links place base then 1 else 0 := by
  rw [contribution]
  cases met.leadsToDirectory disk links place base with
  | true =>
      simp only [if_true]
      split <;> rfl
  | false =>
      simp only [Bool.false_eq_true, if_false]
      split <;> rfl

/-- The `contribution` of an encounter counts in `skipped` if it has `leadsToDirectory` and is
excluded. -/
theorem skipped_contribution (met : Encounter) :
    (met.contribution filter disk links place base).skipped =
      if met.leadsToDirectory disk links place base && filter.excludes met.name then 1 else 0 := by
  rw [contribution]
  cases met.leadsToDirectory disk links place base with
  | true =>
      simp only [if_true, Bool.true_and]
      split <;> rfl
  | false =>
      simp only [Bool.false_eq_true, if_false, Bool.false_and]
      split <;> rfl

/-- The `contribution` of an encounter with `leadsToDirectory` has `OnlySkips`. -/
theorem onlySkips_contribution {met : Encounter}
    (directory : met.leadsToDirectory disk links place base = true) :
    (met.contribution filter disk links place base).OnlySkips := by
  rw [contribution, if_pos directory]
  split
  · exact ⟨1, rfl⟩
  · exact ⟨0, rfl⟩

end Encounter

/-! ## What a walk contributes -/

namespace Walker

variable {walker : Walker} {disk : Disk} {base : Path} {visit start : Visit} {levels links : Nat}
  {place : List String}

/-- An entry that is no directory and whose path is not too long contributes by `lookAt` what its
encounter does. -/
theorem expansion_lookAt (asks : walker.followLinks = false) {held : String × Entry}
    (isPlace : visit.place = place ++ visit.names) (isLinks : visit.links = links)
    (other : visit.below? disk base held = none)
    (short : Disk.isPathTooLong (base.below (visit.names ++ [held.1])).text = false) :
    (walker.lookAt (base.below (visit.names ++ [held.1])) held.2).expansion =
      (Encounter.ofHeld visit held).contribution walker.filter disk links place base := by
  have noDirectory := (isSome_below? disk base isPlace isLinks held).symm
  rw [other, Option.isSome_none] at noDirectory
  rw [Encounter.contribution, noDirectory, lookAt, asks, short]
  obtain ⟨name, content | entries | target⟩ := held
  · rfl
  · cases other
  · rfl

/-- If `attend` does not fail, the visit contributes what its encounters do. -/
theorem expansion_attend (asks : walker.followLinks = false)
    (isPlace : visit.place = place ++ visit.names) (isLinks : visit.links = links)
    (goes : (walker.attend disk base visit).failure? = none) :
    (walker.attend disk base visit).expansion =
      .join ((visit.listed base).map fun held =>
        (Encounter.ofHeld visit held).contribution walker.filter disk links place base) := by
  have leads := isSome_below? disk base isPlace isLinks
  obtain ⟨short, _⟩ := failure?_attend_eq_none goes
  have skips : ∀ held, (visit.below? disk base held).isSome = true →
      ((Encounter.ofHeld visit held).contribution walker.filter disk links place
        base).OnlySkips := by
    intro held isDirectory
    rw [leads held] at isDirectory
    exact Encounter.onlySkips_contribution _ _ _ _ _ isDirectory
  have others : (fun held => !(visit.below? disk base held).isSome) =
      fun held => (visit.below? disk base held).isNone :=
    funext fun held => Option.not_isSome _
  rw [expansion_attend_eq goes, Expansion.join_map_eq_filter _ skips, others]
  refine congrArg₂ Expansion.append ?_ (congrArg Expansion.join ?_)
  · -- Directories contribute if they are left out.
    rw [excluded, ← Expansion.join_map_ite]
    refine congrArg Expansion.join (List.map_congr_left fun held isDirectory => ?_)
    rw [Encounter.contribution, ← leads held, (List.mem_filter.mp isDirectory).2, if_pos rfl]
    rfl
  · refine List.map_congr_left fun held isOther => ?_
    exact expansion_lookAt asks isPlace isLinks
      (Option.isNone_iff_eq_none.mp (List.mem_filter.mp isOther).2) (short asks held isOther)

/-- A walk that follows no links and does not fail contributes what its `encounters` do. -/
theorem walk_eq_done (asks : walker.followLinks = false) (here : start.names = [])
    (goes : (walker.walk disk base start).failure? = none) :
    walker.walk disk base start =
      .done (.join ((walker.encounters disk base walker.levels start).map
        (Encounter.contribution walker.filter disk start.links start.place base))) := by
  have each := Attempt.failure?_inTurn_eq_none_iff.mp goes
  rw [walk, Attempt.inTurn_eq_done each, encounters, List.map_flatMap, Expansion.join_flatMap,
    List.map_map]
  refine congrArg (fun parts => Attempt.done (.join parts))
    (List.map_congr_left fun visit isVisit => ?_)
  obtain ⟨isPlace, isLinks⟩ := place_of_mem_visits asks here visit isVisit
  rw [List.map_map]
  exact expansion_attend asks isPlace isLinks (each _ (List.mem_map_of_mem isVisit))

end Walker

/-! ## What halts a walk -/

/-- In `met.Halts filter disk start base levels failure`, an entry that a walk meets stops the walk
with a failure. The walk starts at a place where some links may still be followed and goes down a
number of levels, and the directory where it starts is written as a path. -/
inductive Encounter.Halts (filter : Filter) (disk : Disk) (start : Located) (base : Path)
    (levels : Nat) (met : Encounter) : Failure → Prop where
  /-- The entry is no directory, and its path is too long to ask whether it is a link. -/
  | tooLong (other : met.leadsToDirectory disk start.links start.place base = false)
      (long : Disk.maxPathBytes < (met.path base).text.utf8ByteSize) :
      Halts filter disk start base levels met (LookupError.tooLong.failure (met.path base).text)
  /-- The entry is a directory that is not excluded and stands too deep to be entered. -/
  | tooDeep (directory : met.leadsToDirectory disk start.links start.place base = true)
      (kept : filter.excludes met.name = false) (deep : levels < met.names.length) :
      Halts filter disk start base levels met (Walker.tooDeepBelow base)

namespace Walker

variable {walker : Walker} {disk : Disk} {base : Path} {place : List String} {links : Nat}
  {entries : List (String × Entry)} {met : Encounter} {failure : Failure}
  (asks : walker.followLinks = false) (distinct : (Entry.directory entries).DistinctNames)

include asks distinct

/-- What `Halts` a walk is an encounter that the filter `Meets` and that `Halts` it. -/
theorem exists_met_of_halts (halts : walker.Halts disk base ⟨[], place, links, entries⟩ failure) :
    ∃ met, walker.filter.Meets base entries met ∧
      met.Halts walker.filter disk ⟨place, some (.directory entries), links⟩ base walker.levels
        failure := by
  -- Everything that is listed at a visit is an encounter of the walk.
  have meets : ∀ visit ∈ walker.visits disk base walker.levels ⟨[], place, links, entries⟩,
      ∀ held ∈ visit.listed base,
        walker.filter.Meets base entries (Encounter.ofHeld visit held) := by
    intro visit comes held isListed
    have isMet : Encounter.ofHeld visit held ∈
        walker.encounters disk base walker.levels ⟨[], place, links, entries⟩ :=
      List.mem_flatMap.mpr ⟨visit, comes, List.mem_map_of_mem isListed⟩
    exact ((mem_encounters_iff asks rfl distinct).mp isMet).1
  cases halts with
  | @tooLong visit held comes other _ long =>
      obtain ⟨isPlace, isLinks⟩ := place_of_mem_visits asks rfl visit comes
      obtain ⟨isListed, isOther⟩ := List.mem_filter.mp other
      refine ⟨_, meets visit comes held isListed, .tooLong ?_ (of_decide_eq_true long)⟩
      -- What is looked at is none of the directories.
      rw [← isSome_below? disk base isPlace isLinks, Option.isNone_iff_eq_none.mp isOther,
        Option.isSome_none]
  | @tooDeep visit held comes deep isKept =>
      obtain ⟨isPlace, isLinks⟩ := place_of_mem_visits asks rfl visit comes
      obtain ⟨isListed, leads, kept⟩ := mem_kept_iff.mp isKept
      refine ⟨_, meets visit comes held isListed, .tooDeep ?_ kept ?_⟩
      · rw [← isSome_below? disk base isPlace isLinks, leads]
      · rw [Encounter.names, List.length_append]
        exact Nat.lt_succ_of_le deep

/-- An encounter that `Halts` does so if the walk comes down to it. -/
theorem halts_of_met (meets : walker.filter.Meets base entries met)
    (halts : met.Halts walker.filter disk ⟨place, some (.directory entries), links⟩ base
      walker.levels failure)
    (shallow : met.above.length ≤ walker.levels) :
    walker.Halts disk base ⟨[], place, links, entries⟩ failure := by
  -- The encounter is listed at one of the visits, since it is not too deep.
  have isMet : met ∈ walker.encounters disk base walker.levels ⟨[], place, links, entries⟩ :=
    (mem_encounters_iff asks rfl distinct).mpr ⟨meets, shallow⟩
  obtain ⟨visit, comes, isListed⟩ := List.mem_flatMap.mp isMet
  obtain ⟨held, isHeld, rfl⟩ := List.mem_map.mp isListed
  obtain ⟨isPlace, isLinks⟩ := place_of_mem_visits asks rfl visit comes
  have leads := isSome_below? disk base isPlace isLinks held
  cases halts with
  | tooLong other long =>
      rw [other, Option.isSome_eq_false_iff] at leads
      exact .tooLong comes (List.mem_filter.mpr ⟨isHeld, leads⟩) asks (decide_eq_true long)
  | tooDeep directory kept deep =>
      rw [Encounter.names, List.length_append] at deep
      exact .tooDeep comes (Nat.le_of_lt_succ deep)
        (mem_kept_iff.mpr ⟨isHeld, leads.trans directory, kept⟩)

/-- A walk that does not fail comes down to everything that the filter `Meets`. -/
theorem length_above_le (goes : (walker.walk disk base ⟨[], place, links, entries⟩).failure? = none)
    (meets : walker.filter.Meets base entries met) : met.above.length ≤ walker.levels := by
  refine Nat.le_of_not_lt fun deep => ?_
  -- The directory on the way that is one level too deep halts the walk.
  have split : met.above = met.above.take walker.levels ++
      met.above[walker.levels] :: met.above.drop (walker.levels + 1) := by
    rw [← List.drop_eq_getElem_cons, List.take_append_drop]
  obtain ⟨inner, meetsAbove⟩ := meets.of_prefix split
  have isLevel : (met.above.take walker.levels).length = walker.levels :=
    List.length_take_of_le (Nat.le_of_lt deep)
  have kept := meets.kept _ (List.getElem_mem deep)
  refine not_halts_of_failure?_walk goes
    (halts_of_met asks distinct meetsAbove (.tooDeep rfl kept ?_) (Nat.le_of_eq isLevel))
  rw [Encounter.names, List.length_append, isLevel]
  exact Nat.lt_succ_self _

end Walker

/-! ## What a walk covers -/

/-- The `expansion` is what a walk with `filter` from a directory contributes, said by the `entries`
below the directory. The walk starts at the place of `start`, with the links left that may still be
followed, and the directory is written as `base`. -/
structure Filter.Covers (filter : Filter) (disk : Disk) (start : Located) (base : Path)
    (entries : List (String × Entry)) (expansion : Expansion) : Prop where
  /-- Every file is given once. -/
  nodup : expansion.files.Nodup
  /-- The files are those that the walk meets and that have an allowed suffix. -/
  mem_files_iff : ∀ file, file ∈ expansion.files ↔
    ∃ met content, filter.Meets base entries met ∧ met.entry = .file content ∧
      file = (met.path base).text ∧
      ∃ suffix ∈ filter.allowed, suffix ≠ "" ∧ suffix.toList <:+ file.toList
  /-- Whatever is no directory is counted. -/
  total : expansion.total =
    {met | filter.Meets base entries met ∧
      met.leadsToDirectory disk start.links start.place base = false}.encard
  /-- Excluded directories are counted. -/
  skipped : expansion.skipped =
    {met | filter.Meets base entries met ∧
      met.leadsToDirectory disk start.links start.place base = true ∧
      filter.excludes met.name = true}.encard

/-- The filter allows the paths that end with one of `filter.allowed` other than `""`. -/
theorem Filter.allows_iff {filter : Filter} {path : String} :
    filter.allows path ↔
      ∃ suffix ∈ filter.allowed, suffix ≠ "" ∧ suffix.toList <:+ path.toList := by
  simp [Filter.allows, endsWith]

/-- A list that holds each item once keeps as many items as there are that pass the test. -/
theorem length_filter_eq_encard {α : Type} {items : List α} {isItem : α → Prop}
    (nodup : items.Nodup) (members : ∀ item, item ∈ items ↔ isItem item) (test : α → Bool) :
    ((items.filter test).length : ℕ∞) = {item | isItem item ∧ test item = true}.encard := by
  classical
  have same : {item | isItem item ∧ test item = true} = ((items.filter test).toFinset : Set α) := by
    ext item
    simp [members]
  rw [same, Set.encard_coe_eq_coe_finsetCard, List.toFinset_card_of_nodup (nodup.filter test)]

namespace Walker

/-- A walk that follows no links and does not fail has `Covers`: it contributes exactly what the
tree below its start holds. -/
theorem covers_walk {walker : Walker} {disk : Disk} {base : Path} {place : List String}
    {links : Nat} {entries : List (String × Entry)} (asks : walker.followLinks = false)
    (normal : base.Normal) (wellNamed : (Entry.directory entries).WellNamed)
    (distinct : (Entry.directory entries).DistinctNames)
    (goes : (walker.walk disk base ⟨[], place, links, entries⟩).failure? = none) :
    walker.filter.Covers disk ⟨place, some (.directory entries), links⟩ base entries
      (walker.walk disk base ⟨[], place, links, entries⟩).expansion := by
  -- A walk that is not halted comes down to all that the filter `Meets`, whatever the depth.
  have members :
      ∀ met, met ∈ walker.encounters disk base walker.levels ⟨[], place, links, entries⟩ ↔
      walker.filter.Meets base entries met := by
    intro met
    rw [mem_encounters_iff asks rfl distinct]
    exact and_iff_left_of_imp (length_above_le asks distinct goes)
  have nodup : (walker.encounters disk base walker.levels ⟨[], place, links, entries⟩).Nodup :=
    nodup_encounters asks distinct
  have files :=
    Expansion.files_join_map (Encounter.files_contribution walker.filter disk links place base)
      (walker.encounters disk base walker.levels ⟨[], place, links, entries⟩)
  rw [walk_eq_done asks rfl goes, Attempt.expansion_done]
  refine ⟨?_, ?_, ?_, ?_⟩
  · -- `nodup`: the paths are distinct, as the text of a path tells encounters apart.
    rw [files]
    refine List.Nodup.map_on ?_ (nodup.filter _)
    intro met isMet other isOther
    exact Filter.text_path_injOn normal wellNamed ((members met).mp (List.mem_of_mem_filter isMet))
      ((members other).mp (List.mem_of_mem_filter isOther))
  · -- `mem_files_iff`: the selected encounters are the files that the filter allows.
    intro file
    simp only [files, List.mem_map, List.mem_filter, members]
    constructor
    · rintro ⟨met, ⟨meets, selected⟩, rfl⟩
      obtain ⟨content, isFile, allowed⟩ :=
        (Encounter.isSelected_iff walker.filter base met).mp selected
      exact ⟨met, content, meets, isFile, rfl, Filter.allows_iff.mp allowed⟩
    · rintro ⟨met, content, meets, isFile, rfl, allowed⟩
      refine ⟨met, ⟨meets, (Encounter.isSelected_iff walker.filter base met).mpr ?_⟩, rfl⟩
      exact ⟨content, isFile, Filter.allows_iff.mpr allowed⟩
  -- The two counts: a list without repetitions is as long as the set of its members is large.
  · rw [Expansion.count_join_map rfl (fun _ _ => rfl)
      (Encounter.total_contribution walker.filter disk links place base),
      length_filter_eq_encard nodup members]
    simp
  · rw [Expansion.count_join_map rfl (fun _ _ => rfl)
      (Encounter.skipped_contribution walker.filter disk links place base),
      length_filter_eq_encard nodup members]
    simp

end Walker

end Footgun
