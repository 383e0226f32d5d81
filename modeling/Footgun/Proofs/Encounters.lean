import Footgun.Proofs.SelectionFilter
import Mathlib.Data.List.Nodup
import Mathlib.Data.Set.Card

/-! # What a walk meets

A walk goes down from a directory through the directories below it whose names are not excluded. A
walk that follows no links meets everything that these directories hold, each entry once, as far as
they can be listed. Main definitions:

* `Entry.DistinctNames` — a directory holds a name once;
* `Encounter` — an entry that a walk meets, and the directories on the way to it;
* `Filter.Meets` — a walk from a directory meets an entry;
* `Walker.encounters` — all that a walk meets, in its order.

The main statements are `Walker.mem_encounters_iff` and `Walker.nodup_names_encounters`, that the
list of encounters holds what the walk meets down to its last level, each once. -/

namespace Footgun

/-! ## Names that a directory holds once -/

/-- A directory, and each one below it, holds a name once. -/
inductive Entry.DistinctNames : Entry → Prop where
  /-- A file holds no names. -/
  | file (content : ByteArray) : DistinctNames (.file content)
  /-- A link holds no names. -/
  | link (target : String) : DistinctNames (.link target)
  /-- A directory holds different names, and so does whatever has them. -/
  | directory {entries : List (String × Entry)} (distinct : (entries.map Prod.fst).Nodup)
      (below : ∀ held ∈ entries, held.2.DistinctNames) : DistinctNames (.directory entries)

/-- In a directory with `DistinctNames`, what it holds has `DistinctNames`, too. -/
theorem Entry.DistinctNames.inside {entries : List (String × Entry)}
    (distinct : (Entry.directory entries).DistinctNames) :
    ∀ held ∈ entries, held.2.DistinctNames := by
  cases distinct with
  | directory _ below => exact below

/-- In a directory with `DistinctNames`, `lookup` finds an entry under `name` exactly if the
directory holds the two together. -/
theorem Entry.DistinctNames.lookup_eq_some_iff {entries : List (String × Entry)} {name : String}
    {entry : Entry} (distinct : (Entry.directory entries).DistinctNames) :
    entries.lookup name = some entry ↔ (name, entry) ∈ entries := by
  refine ⟨Disk.mem_of_lookup, fun held => ?_⟩
  cases distinct with
  | directory names _ =>
      -- An entry before this one has another name, since all names are distinct.
      obtain ⟨before, after, rfl⟩ := List.append_of_mem held
      refine List.lookup_eq_some_iff.mpr ⟨before, after, rfl, fun other isOther => ?_⟩
      rw [bne_iff_ne]
      rintro rfl
      rw [List.map_append, List.nodup_append] at names
      exact names.2.2 _ (List.mem_map_of_mem isOther) _ List.mem_cons_self rfl

/-- A directory has `DistinctNames` exactly if its first name is not among the others, and its first
entry and the rest have `DistinctNames`. -/
theorem Entry.distinctNames_cons {name : String} {entry : Entry} {rest : List (String × Entry)} :
    (Entry.directory ((name, entry) :: rest)).DistinctNames ↔
      name ∉ rest.map Prod.fst ∧ entry.DistinctNames ∧ (Entry.directory rest).DistinctNames := by
  constructor
  · intro distinct
    cases distinct with
    | directory names below =>
        obtain ⟨fresh, others⟩ := List.nodup_cons.mp names
        obtain ⟨first, later⟩ := List.forall_mem_cons.mp below
        exact ⟨fresh, first, .directory others later⟩
  · rintro ⟨fresh, first, distinct⟩
    cases distinct with
    | directory names below =>
        exact .directory (List.nodup_cons.mpr ⟨fresh, names⟩)
          (List.forall_mem_cons.mpr ⟨first, below⟩)

namespace Disk

variable {name first : String} {entry : Entry} {names : List String}
  {entries : List (String × Entry)}

/-- What `descend` finds below a directory is below an entry that the directory holds as `first`. -/
theorem exists_mem_of_descend (found : descend (.directory entries) (first :: names) = some entry) :
    ∃ next, (first, next) ∈ entries ∧ descend next names = some entry := by
  obtain ⟨_, next, same, held, further⟩ := exists_lookup_of_descend found
  cases same
  exact ⟨next, mem_of_lookup held, further⟩

/-- Descending by `first :: names` goes on below the entry that the directory holds as `first`. -/
theorem descend_cons_eq_some_iff (distinct : (Entry.directory entries).DistinctNames) :
    descend (.directory entries) (first :: names) = some entry ↔
      ∃ next, (first, next) ∈ entries ∧ descend next names = some entry := by
  refine ⟨exists_mem_of_descend, ?_⟩
  rintro ⟨next, member, found⟩
  rw [descend, distinct.lookup_eq_some_iff.mpr member]
  exact found

/-- From `root.WellNamed` follows that all `names` by which `descend` finds something are names. -/
theorem isName_of_descend {root : Entry} (wellNamed : root.WellNamed)
    (found : descend root names = some entry) : ∀ name ∈ names, Path.IsName name := by
  induction names generalizing root with
  | nil => exact fun _ member => absurd member List.not_mem_nil
  | cons first others ih =>
      cases wellNamed with
      | file content => cases found
      | link target => cases found
      | directory areNames below =>
          obtain ⟨next, held, further⟩ := exists_mem_of_descend found
          exact List.forall_mem_cons.mpr ⟨areNames _ held, ih (below _ held) further⟩

end Disk

/-! ## Lengths of paths -/

namespace Path

variable (base : Path) (names more : List String) (name : String)

/-- Writing one `name` more is `joinName` of it to what is written. -/
theorem written_concat :
    base.written (names ++ [name]) =
      String.ofList (joinName (base.written names).toList name.toList) := by
  simp [written]

/-- One name more does not make what is written shorter. -/
theorem utf8ByteSize_written_le_concat :
    (base.written names).utf8ByteSize ≤ (base.written (names ++ [name])).utf8ByteSize := by
  rw [written_concat, joinName]
  split
  · rename_i empty
    rw [String.toList_eq_nil_iff.mp (List.isEmpty_iff.mp empty)]
    exact Nat.zero_le _
  · split
    · rw [String.ofList_append, String.utf8ByteSize_append, String.ofList_toList]
      exact Nat.le_add_right _ _
    · rw [String.ofList_append, String.utf8ByteSize_append, String.ofList_toList]
      exact Nat.le_add_right _ _

/-- More names do not make what is written shorter. -/
theorem utf8ByteSize_written_le_append :
    (base.written names).utf8ByteSize ≤ (base.written (names ++ more)).utf8ByteSize := by
  induction more generalizing names with
  | nil => rw [List.append_nil]
  | cons name rest ih =>
      rw [List.append_cons]
      exact Nat.le_trans (base.utf8ByteSize_written_le_concat names name) (ih (names ++ [name]))

end Path

/-- If the path `names ++ more` can be listed, so can the path `names` above it. -/
theorem Disk.isPathTooLong_written_of_append {base : Path} {names more : List String}
    (short : isPathTooLong (base.written (names ++ more)) = false) :
    isPathTooLong (base.written names) = false := by
  have fits := of_decide_eq_false short
  refine decide_eq_false fun long => fits ?_
  exact Nat.lt_of_lt_of_le long (base.utf8ByteSize_written_le_append names more)

/-! ## What a walk meets -/

/-- An entry that a walk meets. -/
structure Encounter where
  /-- The directories between the start of the walk and the entry. -/
  above : List String
  /-- The name of the entry. -/
  name : String
  /-- What has the name. -/
  entry : Entry

namespace Encounter

/-- The names from the start of the walk down to the entry. -/
def names (met : Encounter) : List String :=
  met.above ++ [met.name]

/-- The path of an entry, `met`, for a walk that starts at `base`. -/
def path (base : Path) (met : Encounter) : Path :=
  ⟨base.root, base.parts ++ met.names⟩

/-- Whether an entry, `met`, is a directory or a link that leads to one, for a walk that starts at
`place` with `links` left to follow. -/
def leadsToDirectory (disk : Disk) (links : Nat) (place : List String) (base : Path)
    (met : Encounter) : Bool :=
  match met.entry with
  | .file _ => false
  | .directory _ => true
  | .link target =>
    !Disk.isPathTooLong (base.written met.names) &&
      match disk.followLink? links (place ++ met.above) target with
      | some ⟨_, some (.directory _), _⟩ => true
      | _ => false

/-- The entry `held` of a visit, as a walk meets it. -/
def ofHeld (visit : Visit) (held : String × Entry) : Encounter :=
  ⟨visit.names, held.1, held.2⟩

end Encounter

/-- In `filter.Meets base entries met`, a walk from `base`, which holds `entries`, meets an
entry. -/
structure Filter.Meets (filter : Filter) (base : Path) (entries : List (String × Entry))
    (met : Encounter) : Prop where
  /-- The entry stands below the directory, with no link on the way. -/
  found : Disk.descend (.directory entries) met.names = some met.entry
  /-- The directories on the way are not excluded. -/
  kept : ∀ directory ∈ met.above, filter.excludes directory = false
  /-- The directory that holds the entry can be listed. -/
  listed : Disk.isPathTooLong (base.written met.above) = false

namespace Walker

/-- What a walk meets: for one of its `visits` after the other, what is `listed` there. -/
def encounters (walker : Walker) (disk : Disk) (base : Path) (levels : Nat) (start : Visit) :
    List Encounter :=
  (walker.visits disk base levels start).flatMap fun visit =>
    (visit.listed base).map (Encounter.ofHeld visit)

/-- On the last level, the encounters of a walk are what is listed at its `start`. -/
theorem encounters_zero (walker : Walker) (disk : Disk) (base : Path) (start : Visit) :
    walker.encounters disk base 0 start = (start.listed base).map (Encounter.ofHeld start) := by
  simp [encounters, visits]

/-- With levels left, the encounters are what is listed at the `start`, and then those of the visits
that are `entered` from there. -/
theorem encounters_succ (walker : Walker) (disk : Disk) (base : Path) (levels : Nat)
    (start : Visit) :
    walker.encounters disk base (levels + 1) start =
      (start.listed base).map (Encounter.ofHeld start) ++
        (walker.entered disk base start).flatMap (walker.encounters disk base levels) := by
  rw [encounters, visits, List.flatMap_cons, List.flatMap_assoc]
  rfl

variable {walker : Walker} {disk : Disk} {base : Path} {start child visit : Visit} {levels : Nat}
  {met : Encounter}

/-- Without `followLinks`, the visits `entered` from a visit are those of its directories whose
names are not excluded. -/
theorem mem_entered_iff_of_not_followLinks (asks : walker.followLinks = false) :
    child ∈ walker.entered disk base visit ↔
      ∃ name, (name, .directory child.entries) ∈ visit.listed base ∧
        walker.filter.excludes name = false ∧
        child = ⟨visit.names ++ [name], visit.place ++ [name], visit.links, child.entries⟩ := by
  rw [mem_entered_iff]
  constructor
  · rintro ⟨⟨name, entry⟩, isKept, passes, leads⟩
    obtain ⟨isListed, _, kept⟩ := mem_kept_iff.mp isKept
    -- Without `followLinks`, only a directory itself is left to enter.
    rw [asks] at passes
    cases entry with
    | file content => cases leads
    | link target => simp [Entry.isLink] at passes
    | directory inner =>
        cases leads
        exact ⟨name, isListed, kept, rfl⟩
  · rintro ⟨name, isListed, kept, isChild⟩
    refine ⟨(name, .directory child.entries), mem_kept_iff.mpr ⟨isListed, rfl, kept⟩, .inr rfl, ?_⟩
    rw [isChild]
    rfl

/-- Without `followLinks`, all visits stay below the place of `start`, and no link is used up. -/
theorem place_of_mem_visits (asks : walker.followLinks = false) (here : start.names = []) :
    ∀ visit ∈ walker.visits disk base levels start,
      visit.place = start.place ++ visit.names ∧ visit.links = start.links := by
  refine visits_induction ⟨by rw [here, List.append_nil], rfl⟩ ?_
  rintro visit ⟨place, links⟩ child isChild
  obtain ⟨name, _, _, isBelow⟩ := (mem_entered_iff_of_not_followLinks asks).mp isChild
  rw [isBelow]
  exact ⟨by rw [place, List.append_assoc], links⟩

/-- The answer of `visit.below?` on whether an entry is a directory is that of
`leadsToDirectory`. -/
theorem isSome_below? (disk : Disk) (base : Path) {place : List String} {links : Nat}
    (isPlace : visit.place = place ++ visit.names) (isLinks : visit.links = links)
    (held : String × Entry) :
    (visit.below? disk base held).isSome =
      (Encounter.ofHeld visit held).leadsToDirectory disk links place base := by
  obtain ⟨name, content | entries | target⟩ := held
  · rfl
  · rfl
  · simp only [Visit.below?, Encounter.leadsToDirectory, Encounter.ofHeld, Encounter.names,
      ← isPlace, ← isLinks]
    cases Disk.isPathTooLong (base.written (visit.names ++ [name])) with
    | true => rfl
    | false =>
        rcases disk.followLink? visit.links visit.place target with
          _ | ⟨there, _ | ⟨content | entries | other⟩, remaining⟩ <;> rfl

/-! ## The list of encounters -/

/-- What is listed at a visit is what stands right in its directory, if that can be listed at
all. -/
theorem mem_map_ofHeld_iff (distinct : (Entry.directory visit.entries).DistinctNames) :
    met ∈ (visit.listed base).map (Encounter.ofHeld visit) ↔
      met.above = visit.names ∧
      Disk.descend (.directory visit.entries) [met.name] = some met.entry ∧
        Disk.isPathTooLong (base.written met.above) = false := by
  have held : Disk.descend (.directory visit.entries) [met.name] = some met.entry ↔
      (met.name, met.entry) ∈ visit.entries := by
    rw [Disk.descend_cons_eq_some_iff distinct]
    simp [Disk.descend]
  rw [held, List.mem_map]
  constructor
  · rintro ⟨⟨name, entry⟩, isListed, rfl⟩
    obtain ⟨short, isHeld⟩ := Visit.mem_listed_iff.mp isListed
    exact ⟨rfl, isHeld, short⟩
  · rintro ⟨isAbove, isHeld, short⟩
    obtain ⟨above, name, entry⟩ := met
    cases isAbove
    exact ⟨(name, entry), Visit.mem_listed_iff.mpr ⟨short, isHeld⟩, rfl⟩

/-- The members of `walker.encounters disk base levels start`: what stands below `start`, at most
`levels` directories down, behind names that are not excluded and in directories that can be listed.
The induction is on `levels`. -/
theorem mem_encounters_iff_exists (asks : walker.followLinks = false)
    (distinct : (Entry.directory start.entries).DistinctNames) :
    met ∈ walker.encounters disk base levels start ↔
      ∃ between, met.above = start.names ++ between ∧ between.length ≤ levels ∧
        Disk.descend (.directory start.entries) (between ++ [met.name]) = some met.entry ∧
        (∀ directory ∈ between, walker.filter.excludes directory = false) ∧
        Disk.isPathTooLong (base.written met.above) = false := by
  induction levels generalizing start with
  | zero =>
      rw [encounters_zero, mem_map_ofHeld_iff distinct]
      constructor
      · rintro ⟨isAbove, found, short⟩
        exact ⟨[], by rw [isAbove, List.append_nil], Nat.le_refl 0, found, by simp, short⟩
      · rintro ⟨between, isAbove, shallow, found, _, short⟩
        cases List.length_eq_zero_iff.mp (Nat.le_zero.mp shallow)
        exact ⟨by rw [isAbove, List.append_nil], found, short⟩
  | succ levels ih =>
      rw [encounters_succ, List.mem_append, mem_map_ofHeld_iff distinct, List.mem_flatMap]
      constructor
      · rintro (⟨isAbove, found, short⟩ | ⟨child, isChild, below⟩)
        · exact ⟨[], by rw [isAbove, List.append_nil], Nat.zero_le _, found, by simp, short⟩
        · obtain ⟨name, isListed, kept, isBelow⟩ :=
            (mem_entered_iff_of_not_followLinks asks).mp isChild
          have isHeld := (Visit.mem_listed_iff.mp isListed).2
          obtain ⟨between, isAbove, shallow, found, keptToo, short⟩ :=
            (ih (distinct.inside _ isHeld)).mp below
          refine ⟨name :: between, ?_, Nat.succ_le_succ shallow, ?_, ?_, short⟩
          · rw [isAbove, isBelow, List.append_assoc]
            rfl
          · exact (Disk.descend_cons_eq_some_iff distinct).mpr ⟨_, isHeld, found⟩
          · exact List.forall_mem_cons.mpr ⟨kept, keptToo⟩
      · rintro ⟨_ | ⟨first, rest⟩, isAbove, shallow, found, kept, short⟩
        · exact .inl ⟨by rw [isAbove, List.append_nil], found, short⟩
        · -- The first directory on the way is listed, since the last one is.
          obtain ⟨next, isHeld, further⟩ := (Disk.descend_cons_eq_some_iff distinct).mp found
          obtain ⟨inner, rfl⟩ : ∃ inner, next = .directory inner := by
            obtain ⟨inner, isInner⟩ := Disk.directory_of_descend_append
              (List.append_ne_nil_of_right_ne_nil rest (List.cons_ne_nil met.name []))
              (show Disk.descend next ([] ++ (rest ++ [met.name])) = some met.entry from further)
            exact ⟨inner, Option.some.inj isInner⟩
          obtain ⟨keptFirst, keptRest⟩ := List.forall_mem_cons.mp kept
          have shortStart : Disk.isPathTooLong (base.written start.names) = false := by
            rw [isAbove] at short
            exact Disk.isPathTooLong_written_of_append short
          refine .inr ⟨⟨start.names ++ [first], start.place ++ [first], start.links, inner⟩, ?_, ?_⟩
          · exact (mem_entered_iff_of_not_followLinks asks).mpr
              ⟨first, Visit.mem_listed_iff.mpr ⟨shortStart, isHeld⟩, keptFirst, rfl⟩
          · refine (ih (distinct.inside _ isHeld)).mpr
              ⟨rest, ?_, Nat.le_of_succ_le_succ shallow, further, keptRest, short⟩
            rw [isAbove, List.append_assoc]
            rfl

/-- The members of `encounters` are exactly what the filter `Meets` at most `levels` directories
down. -/
theorem mem_encounters_iff (asks : walker.followLinks = false) (here : start.names = [])
    (distinct : (Entry.directory start.entries).DistinctNames) :
    met ∈ walker.encounters disk base levels start ↔
      walker.filter.Meets base start.entries met ∧ met.above.length ≤ levels := by
  rw [mem_encounters_iff_exists asks distinct, here]
  constructor
  · rintro ⟨between, rfl, shallow, found, kept, short⟩
    exact ⟨⟨found, kept, short⟩, shallow⟩
  · rintro ⟨⟨found, kept, short⟩, shallow⟩
    exact ⟨met.above, rfl, shallow, found, kept, short⟩

/-- The names of what is listed at a visit are distinct. -/
theorem nodup_names_listed (base : Path)
    (distinct : (Entry.directory visit.entries).DistinctNames) :
    ((visit.listed base).map Prod.fst).Nodup := by
  unfold Visit.listed
  split
  · exact List.nodup_nil
  · cases distinct with
    | directory names _ => exact names

/-- The visits that are `entered` from a visit have different `names`. -/
theorem pairwise_names_entered (distinct : (Entry.directory visit.entries).DistinctNames) :
    (walker.entered disk base visit).Pairwise fun first second => first.names ≠ second.names := by
  -- The `kept` directories are some of those that are listed, in another order.
  have names : (walker.kept disk base visit).Pairwise fun first second => first.1 ≠ second.1 := by
    rw [← List.pairwise_map (f := Prod.fst) (R := (· ≠ ·))]
    have listed := nodup_names_listed base distinct
    have sub :
        ((visit.directories disk base).filter fun held => !walker.filter.excludes held.1).Sublist
        (visit.listed base) := List.filter_sublist.trans List.filter_sublist
    exact (((List.mergeSort_perm _ _).map Prod.fst).nodup_iff).mpr
      (listed.sublist (sub.map Prod.fst))
  unfold entered
  refine List.Pairwise.filterMap _ ?_ (names.filter _)
  intro first second different child leads other leadsOther same
  rw [(Visit.below?_cases leads).1, (Visit.below?_cases leadsOther).1,
    List.append_cancel_left_eq] at same
  exact different (List.cons.inj same).1

/-- The visits that are `entered` from a visit have one name more. -/
theorem names_of_mem_entered (isChild : child ∈ walker.entered disk base visit) :
    ∃ name, child.names = visit.names ++ [name] := by
  obtain ⟨held, _, _, leads⟩ := mem_entered_iff.mp isChild
  exact ⟨held.1, (Visit.below?_cases leads).1⟩

/-- The encounters at one visit have different `names`. -/
theorem nodup_names_ofHeld (base : Path)
    (distinct : (Entry.directory visit.entries).DistinctNames) :
    (((visit.listed base).map (Encounter.ofHeld visit)).map Encounter.names).Nodup := by
  have names := (nodup_names_listed base distinct).map (f := fun name => visit.names ++ [name])
    fun first second same => by simpa using same
  rw [List.map_map] at names ⊢
  exact names

/-- The `names` of an encounter are those of `start` and at least one more. -/
theorem exists_names_of_mem_encounters (asks : walker.followLinks = false)
    (distinct : (Entry.directory start.entries).DistinctNames)
    (isMet : met ∈ walker.encounters disk base levels start) :
    ∃ between, met.names = start.names ++ between ∧ between ≠ [] := by
  obtain ⟨between, isAbove, _⟩ := (mem_encounters_iff_exists asks distinct).mp isMet
  refine ⟨between ++ [met.name], ?_, List.append_ne_nil_of_right_ne_nil _ (List.cons_ne_nil _ _)⟩
  rw [Encounter.names, isAbove, List.append_assoc]

/-- The encounters of a walk have different `names`. The induction is on `levels`: the names of
visits next to each other differ, and so do all names that start with them. -/
theorem nodup_names_encounters (asks : walker.followLinks = false)
    (distinct : (Entry.directory start.entries).DistinctNames) :
    ((walker.encounters disk base levels start).map Encounter.names).Nodup := by
  induction levels generalizing start with
  | zero =>
      rw [encounters_zero]
      exact nodup_names_ofHeld base distinct
  | succ levels ih =>
      have inside : ∀ child ∈ walker.entered disk base start,
          (Entry.directory child.entries).DistinctNames := by
        intro child isChild
        obtain ⟨name, isListed, _⟩ := (mem_entered_iff_of_not_followLinks asks).mp isChild
        exact distinct.inside _ (Visit.mem_listed_iff.mp isListed).2
      rw [encounters_succ, List.map_append, List.map_flatMap, List.nodup_append]
      refine ⟨nodup_names_ofHeld base distinct, List.nodup_flatMap.mpr ⟨?_, ?_⟩, ?_⟩
      · exact fun child isChild => ih (inside child isChild)
      · -- Below different directories the names differ where the directories do.
        refine (pairwise_names_entered distinct).imp_of_mem fun isFirst isSecond different => ?_
        intro names below belowToo
        obtain ⟨met, isMet, rfl⟩ := List.mem_map.mp below
        obtain ⟨other, isOther, same⟩ := List.mem_map.mp belowToo
        obtain ⟨between, isNames, _⟩ := exists_names_of_mem_encounters asks (inside _ isFirst) isMet
        obtain ⟨others, isOthers, _⟩ :=
          exists_names_of_mem_encounters asks (inside _ isSecond) isOther
        obtain ⟨name, isFirstName⟩ := names_of_mem_entered isFirst
        obtain ⟨second, isSecondName⟩ := names_of_mem_entered isSecond
        rw [isNames, isOthers] at same
        refine different (List.append_inj same ?_).1.symm
        rw [isFirstName, isSecondName, List.length_append, List.length_append]
        rfl
      · -- What is further down has more names.
        intro names here below isBelow same
        obtain ⟨met, isMet, rfl⟩ := List.mem_map.mp here
        obtain ⟨held, _, rfl⟩ := List.mem_map.mp isMet
        obtain ⟨child, isChild, inChild⟩ := List.mem_flatMap.mp isBelow
        obtain ⟨other, isOther, rfl⟩ := List.mem_map.mp inChild
        obtain ⟨between, isNames, notEmpty⟩ :=
          exists_names_of_mem_encounters asks (inside child isChild) isOther
        obtain ⟨name, isChildName⟩ := names_of_mem_entered isChild
        have lengths := congrArg List.length (same.trans isNames)
        rw [isChildName] at lengths
        simp only [Encounter.names, Encounter.ofHeld, List.length_append,
          List.length_singleton] at lengths
        exact notEmpty (List.length_eq_zero_iff.mp (by omega))

/-- No encounter of a walk is repeated. -/
theorem nodup_encounters (asks : walker.followLinks = false)
    (distinct : (Entry.directory start.entries).DistinctNames) :
    (walker.encounters disk base levels start).Nodup :=
  List.Nodup.of_map _ (nodup_names_encounters asks distinct)

end Walker

namespace Filter

variable {filter : Filter} {base : Path} {entries : List (String × Entry)} {met other : Encounter}

/-- In a directory with `WellNamed`, all `names` of what a walk `Meets` are names. -/
theorem Meets.isName (wellNamed : (Entry.directory entries).WellNamed)
    (meets : filter.Meets base entries met) : ∀ name ∈ met.names, Path.IsName name :=
  Disk.isName_of_descend wellNamed meets.found

/-- What a walk `Meets` is told apart by the text of its `path`. -/
theorem text_path_injOn (normal : base.Normal) (wellNamed : (Entry.directory entries).WellNamed)
    (meets : filter.Meets base entries met) (meetsOther : filter.Meets base entries other)
    (same : (met.path base).text = (other.path base).text) : met = other := by
  -- The path of an encounter is `Normal`, and therefore read back from its text.
  have written : ∀ {met : Encounter}, filter.Meets base entries met → (met.path base).Normal := by
    intro met meets
    refine ⟨normal.root, ?_⟩
    intro name member
    obtain above | behind := List.mem_append.mp member
    · exact normal.names name above
    · exact meets.isName wellNamed name behind
  have paths : met.path base = other.path base := by
    rw [← Path.ofText_text (written meets), ← Path.ofText_text (written meetsOther), same]
  have names : met.names = other.names := List.append_cancel_left (Path.mk.inj paths).2
  -- What stands at these names is given by `descend`.
  have entry : met.entry = other.entry := by
    have found := meets.found
    rw [names, meetsOther.found] at found
    exact (Option.some.inj found).symm
  obtain ⟨above, last, here⟩ := met
  obtain ⟨otherAbove, otherLast, there⟩ := other
  obtain ⟨rfl, isLast⟩ := List.append_inj' names rfl
  cases isLast
  cases entry
  rfl

/-- Above what a walk `Meets` there are directories that it `Meets`. -/
theorem Meets.of_prefix {above behind : List String} {name : String}
    (meets : filter.Meets base entries met) (split : met.above = above ++ name :: behind) :
    ∃ inner, filter.Meets base entries ⟨above, name, .directory inner⟩ := by
  obtain ⟨found, kept, short⟩ := meets
  have further : Disk.descend (.directory entries) ((above ++ [name]) ++ (behind ++ [met.name])) =
      some met.entry := by
    rw [Encounter.names, split] at found
    simpa using found
  obtain ⟨inner, isDirectory⟩ := Disk.directory_of_descend_append
    (List.append_ne_nil_of_right_ne_nil behind (List.cons_ne_nil met.name [])) further
  rw [split] at kept short
  exact ⟨inner, isDirectory, fun directory isAbove =>
    kept directory (List.mem_append_left _ isAbove), Disk.isPathTooLong_written_of_append short⟩

end Filter

end Footgun
