import Footgun.Proofs.DiskPlaces
import Footgun.Selection.Basic

/-! # Visits of a walk

A walk visits directories one after the other, each one before those below it, and what it
contributes is contributed by one of its visits. So a fact about all that a walk contributes, or
about why it stops, is one about a single visit, once it is known how a visit follows another one.
Main definitions:

* `Walker.Halts` — something that a walk comes to stops it.

The main statements are `Walker.visits_induction`, `Walker.exists_of_mem_files_walk` and
`Walker.exists_failure?_walk_iff`. -/

namespace Footgun

/-! ## Contributions -/

namespace Expansion

@[simp] theorem files_nothing : nothing.files = [] := rfl

@[simp] theorem files_left : left.files = [] := rfl

@[simp] theorem files_counted : counted.files = [] := rfl

@[simp] theorem files_absent : absent.files = [] := rfl

@[simp] theorem files_append (first second : Expansion) :
    (first.append second).files = first.files ++ second.files := rfl

/-- A file that is `looked` at is contributed if it is accepted. -/
@[simp] theorem mem_files_looked {filter : Filter} {accepted : Bool} {path file : String} :
    file ∈ (looked filter accepted path).files ↔ accepted ∧ file = path := by
  cases accepted <;> simp [looked]

theorem join_cons (first : Expansion) (rest : List Expansion) :
    join (first :: rest) = first.append (join rest) := rfl

/-- The files of `join expansions` are those of the expansions. -/
@[simp] theorem mem_files_join {expansions : List Expansion} {file : String} :
    file ∈ (join expansions).files ↔ ∃ expansion ∈ expansions, file ∈ expansion.files := by
  induction expansions with
  | nil => simp [join]
  | cons first rest ih =>
      rw [join_cons, files_append, List.mem_append, ih]
      simp

theorem nothing_append (expansion : Expansion) : nothing.append expansion = expansion := by
  simp [append, nothing]

theorem append_nothing (expansion : Expansion) : expansion.append nothing = expansion := by
  simp [append, nothing]

/-- What holds of `nothing` and is kept by `append` holds of `join expansions` if it holds of
each. -/
theorem join_induction {motive : Expansion → Prop} (empty : motive nothing)
    (both : ∀ first second, motive first → motive second → motive (first.append second))
    {expansions : List Expansion} (each : ∀ expansion ∈ expansions, motive expansion) :
    motive (join expansions) := by
  induction expansions with
  | nil => exact empty
  | cons first rest ih =>
      obtain ⟨isFirst, areRest⟩ := List.forall_mem_cons.mp each
      exact both first _ isFirst (ih areRest)

end Expansion

/-! ## Steps -/

namespace Attempt

variable {attempts : List Attempt} {failure : Failure}

@[simp] theorem expansion_done (expansion : Expansion) :
    (done expansion).expansion = expansion := rfl

@[simp] theorem failure?_done (expansion : Expansion) : (done expansion).failure? = none := rfl

@[simp] theorem expansion_stopped (failure : Failure) :
    (stopped failure).expansion = .nothing := rfl

@[simp] theorem failure?_stopped (failure : Failure) :
    (stopped failure).failure? = some failure := rfl

theorem done_andThen (expansion : Expansion) (second : Attempt) :
    (done expansion).andThen second = ⟨expansion.append second.expansion, second.failure?⟩ := rfl

/-- Two steps stop where the first one does, and else where the second one does. -/
theorem failure?_andThen (first second : Attempt) :
    (first.andThen second).failure? = first.failure?.or second.failure? := by
  obtain ⟨expansion, _ | failure⟩ := first <;> rfl

/-- What is kept by `append` holds of `first.andThen second` if it holds of both. -/
theorem andThen_induction {motive : Expansion → Prop}
    (both : ∀ first second, motive first → motive second → motive (first.append second))
    {first second : Attempt} (isFirst : motive first.expansion)
    (isSecond : motive second.expansion) : motive (first.andThen second).expansion := by
  obtain ⟨expansion, _ | failure⟩ := first
  · exact both _ _ isFirst isSecond
  · exact isFirst

@[simp] theorem inTurn_nil : inTurn [] = done .nothing := rfl

theorem inTurn_cons (first : Attempt) (rest : List Attempt) :
    inTurn (first :: rest) = first.andThen (inTurn rest) := rfl

/-- What holds of `nothing` and is kept by `append` holds of `inTurn attempts` if it holds of
each. -/
theorem inTurn_induction {motive : Expansion → Prop} (empty : motive .nothing)
    (both : ∀ first second, motive first → motive second → motive (first.append second))
    (each : ∀ attempt ∈ attempts, motive attempt.expansion) :
    motive (inTurn attempts).expansion := by
  induction attempts with
  | nil => exact empty
  | cons first rest ih =>
      obtain ⟨isFirst, areRest⟩ := List.forall_mem_cons.mp each
      exact andThen_induction both isFirst (ih areRest)

/-- A file that `inTurn attempts` contributes is contributed by one of them. -/
theorem exists_of_mem_files_inTurn {file : String}
    (member : file ∈ (inTurn attempts).expansion.files) :
    ∃ attempt ∈ attempts, file ∈ attempt.expansion.files := by
  refine inTurn_induction (motive := fun expansion => file ∈ expansion.files →
    ∃ attempt ∈ attempts, file ∈ attempt.expansion.files) ?_ ?_ ?_ member
  · intro inside
    cases inside
  · intro first second fromFirst fromSecond inside
    rcases List.mem_append.mp inside with here | later
    · exact fromFirst here
    · exact fromSecond later
  · exact fun attempt isAttempt inside => ⟨attempt, isAttempt, inside⟩

/-- The failure of `inTurn attempts` is that of one of them. -/
theorem exists_of_failure?_inTurn (stops : (inTurn attempts).failure? = some failure) :
    ∃ attempt ∈ attempts, attempt.failure? = some failure := by
  induction attempts with
  | nil => cases stops
  | cons first rest ih =>
      rw [inTurn_cons, failure?_andThen, Option.or_eq_some_iff] at stops
      rcases stops with here | ⟨_, later⟩
      · exact ⟨first, List.mem_cons_self, here⟩
      · obtain ⟨attempt, isAttempt, fails⟩ := ih later
        exact ⟨attempt, List.mem_cons_of_mem _ isAttempt, fails⟩

/-- If none of `attempts` fails, `inTurn attempts` contributes all of their parts. -/
theorem inTurn_eq_done (go : ∀ attempt ∈ attempts, attempt.failure? = none) :
    inTurn attempts = done (.join (attempts.map (·.expansion))) := by
  induction attempts with
  | nil => rfl
  | cons first rest ih =>
      obtain ⟨goesFirst, goRest⟩ := List.forall_mem_cons.mp go
      obtain ⟨expansion, failure?⟩ := first
      cases goesFirst
      rw [inTurn_cons, ih goRest]
      rfl

/-- There is no failure of `inTurn attempts` exactly if none of them fails. -/
theorem failure?_inTurn_eq_none_iff :
    (inTurn attempts).failure? = none ↔ ∀ attempt ∈ attempts, attempt.failure? = none := by
  induction attempts with
  | nil => simp
  | cons first rest ih =>
      rw [inTurn_cons, failure?_andThen, Option.or_eq_none_iff, ih, List.forall_mem_cons]

/-- There is a failure of `inTurn attempts` exactly if one of them fails. -/
theorem exists_failure?_inTurn_iff :
    (∃ failure, (inTurn attempts).failure? = some failure) ↔
      ∃ attempt ∈ attempts, ∃ failure, attempt.failure? = some failure := by
  simp only [← Option.ne_none_iff_exists', ne_eq, failure?_inTurn_eq_none_iff]
  simp

end Attempt

/-! ## One visit after another -/

namespace Visit

variable {visit child : Visit} {disk : Disk} {base : Path} {held : String × Entry}

/-- What is `listed` at a visit stands in its directory, whose path is not too long. -/
theorem mem_listed_iff :
    held ∈ visit.listed base ↔
      Disk.isPathTooLong (base.written visit.names) = false ∧ held ∈ visit.entries := by
  unfold listed
  cases Disk.isPathTooLong (base.written visit.names) <;> simp

/-- The visit `below?` of an entry is one of a directory, or of what a link leads to. -/
theorem below?_cases (leads : visit.below? disk base held = some child) :
    child.names = visit.names ++ [held.1] ∧
      (held.2 = .directory child.entries ∧ child.place = visit.place ++ [held.1] ∧
          child.links = visit.links ∨
        ∃ target, held.2 = .link target ∧ disk.followLink? visit.links visit.place target =
          some ⟨child.place, some (.directory child.entries), child.links⟩) := by
  obtain ⟨name, content | entries | target⟩ := held
  · cases leads
  · cases leads
    exact ⟨rfl, .inl ⟨rfl, rfl, rfl⟩⟩
  · rw [below?] at leads
    split at leads
    · cases leads
    split at leads
    · rename_i place entries links found
      cases leads
      exact ⟨rfl, .inr ⟨target, rfl, found⟩⟩
    · cases leads

/-- What directories hand `down` to all that they hold is handed down to the visit `below?`. -/
theorem below?_induction {motive : Entry → Prop}
    (down : ∀ entries, motive (.directory entries) → ∀ held ∈ entries, motive held.2)
    (root : motive disk.root) (here : motive held.2)
    (leads : visit.below? disk base held = some child) : motive (.directory child.entries) := by
  rcases (below?_cases leads).2 with ⟨isDirectory, _⟩ | ⟨target, _, found⟩
  · rw [← isDirectory]
    exact here
  · exact Disk.descend_induction down root (Disk.found?_of_followLink? found).symm

end Visit

namespace Walker

variable {walker : Walker} {disk : Disk} {base : Path} {visit child start : Visit} {levels : Nat}
  {held : String × Entry} {file : String} {failure : Failure}

/-- The `kept` entries are those directories that the filter does not exclude. -/
theorem mem_kept_iff :
    held ∈ walker.kept disk base visit ↔
      held ∈ visit.listed base ∧ (visit.below? disk base held).isSome ∧
        walker.filter.excludes held.1 = false := by
  simp [kept, Visit.directories, and_comm]

/-- The visits `entered` are those `below?` the `kept` entries, links only with `followLinks`. -/
theorem mem_entered_iff :
    child ∈ walker.entered disk base visit ↔
      ∃ held ∈ walker.kept disk base visit, (walker.followLinks ∨ held.2.isLink = false) ∧
        visit.below? disk base held = some child := by
  simp [entered, and_assoc]

/-! ## The visits of a walk -/

/-- The start is among the `visits` of a walk. -/
theorem start_mem_visits (walker : Walker) (disk : Disk) (base : Path) (levels : Nat)
    (start : Visit) : start ∈ walker.visits disk base levels start := by
  cases levels with
  | zero => exact List.mem_singleton_self start
  | succ levels => exact List.mem_cons_self

/-- What holds of `start`, and is handed on to the visits `entered`, holds of all `visits`. The
induction is on `levels`. -/
theorem visits_induction {motive : Visit → Prop} (begins : motive start)
    (step : ∀ visit, motive visit → ∀ child ∈ walker.entered disk base visit, motive child) :
    ∀ visit ∈ walker.visits disk base levels start, motive visit := by
  induction levels generalizing start with
  | zero =>
      intro visit isVisit
      rw [List.mem_singleton.mp isVisit]
      exact begins
  | succ levels ih =>
      intro visit isVisit
      rcases List.mem_cons.mp isVisit with rfl | below
      · exact begins
      · obtain ⟨child, isChild, inside⟩ := List.mem_flatMap.mp below
        exact ih (step start begins child isChild) visit inside

/-- What directories hand `down`, and ask of the names that they hold, holds of all `visits` of a
walk and of all names on the way to them; and the filter excludes none of these names. -/
theorem names_of_mem_visits {motive : Entry → Prop} (named : String → Prop)
    (down : ∀ entries, motive (.directory entries) → ∀ held ∈ entries, named held.1 ∧ motive held.2)
    (root : motive disk.root) (begins : motive (.directory start.entries))
    (here : start.names = []) :
    ∀ visit ∈ walker.visits disk base levels start, motive (.directory visit.entries) ∧
      ∀ name ∈ visit.names, named name ∧ walker.filter.excludes name = false := by
  refine visits_induction ⟨begins, ?_⟩ ?_
  · -- At the start there are no names yet.
    rw [here]
    exact fun _ member => absurd member List.not_mem_nil
  · -- A visit that is entered adds the name of one of the `kept` directories.
    rintro visit ⟨holds, names⟩ child isChild
    obtain ⟨held, isKept, _, leads⟩ := mem_entered_iff.mp isChild
    obtain ⟨isListed, _, notExcluded⟩ := mem_kept_iff.mp isKept
    obtain ⟨isNamed, isHeld⟩ := down _ holds held (Visit.mem_listed_iff.mp isListed).2
    refine ⟨Visit.below?_induction
      (fun entries above other isOther => (down entries above other isOther).2)
      root isHeld leads, ?_⟩
    rw [(Visit.below?_cases leads).1]
    intro name member
    rcases List.mem_append.mp member with above | last
    · exact names name above
    · rw [List.mem_singleton.mp last]
      exact ⟨isNamed, notExcluded⟩

/-! ## What a walk contributes -/

/-- An entry that `lookAt` looks at contributes at most itself. -/
theorem of_mem_files_lookAt {path : Path} {entry : Entry}
    (member : file ∈ (walker.lookAt path entry).expansion.files) :
    walker.filter.allows path.text ∧ file = path.text := by
  unfold lookAt at member
  split at member
  · cases member
  split at member
  · cases member
  · exact Expansion.mem_files_looked.mp member

/-- A file that `attend` contributes is allowed and `listed` at the visit. -/
theorem exists_of_mem_files_attend
    (member : file ∈ (walker.attend disk base visit).expansion.files) :
    ∃ held ∈ visit.listed base, walker.filter.allows file ∧
      file = (base.below (visit.names ++ [held.1])).text := by
  unfold attend at member
  rw [Attempt.done_andThen, Expansion.files_append, List.mem_append,
    Expansion.mem_files_join] at member
  rcases member with ⟨expansion, isLeft, inside⟩ | member
  · -- Excluded directories contribute no files.
    obtain ⟨_, _, rfl⟩ := List.mem_map.mp isLeft
    cases inside
  · refine Attempt.andThen_induction (motive := fun expansion => file ∈ expansion.files →
      ∃ held ∈ visit.listed base, walker.filter.allows file ∧
        file = (base.below (visit.names ++ [held.1])).text) ?_ ?_ ?_ member
    · intro first second fromFirst fromSecond inside
      rcases List.mem_append.mp inside with here | later
      · exact fromFirst here
      · exact fromSecond later
    · intro inside
      obtain ⟨attempt, isAttempt, inside⟩ := Attempt.exists_of_mem_files_inTurn inside
      obtain ⟨held, isOther, rfl⟩ := List.mem_map.mp isAttempt
      obtain ⟨allowed, rfl⟩ := of_mem_files_lookAt inside
      exact ⟨held, (List.mem_filter.mp isOther).1, allowed, rfl⟩
    · -- Whether the visit stops at its depth or goes on, this step contributes nothing.
      split
      · intro inside
        cases inside
      · intro inside
        cases inside

/-- A file that `walk` contributes is allowed. What directories ask of the names that they hold
holds of the names on the way to it, and the filter excludes no directory on the way. -/
theorem exists_of_mem_files_walk {motive : Entry → Prop} (named : String → Prop)
    (down : ∀ entries, motive (.directory entries) → ∀ held ∈ entries, named held.1 ∧ motive held.2)
    (root : motive disk.root) (begins : motive (.directory start.entries)) (here : start.names = [])
    (member : file ∈ (walker.walk disk base start).expansion.files) :
    ∃ between name, file = (base.below (between ++ [name])).text ∧ walker.filter.allows file ∧
      named name ∧
      ∀ directory ∈ between, named directory ∧ walker.filter.excludes directory = false := by
  obtain ⟨attempt, isAttempt, inside⟩ := Attempt.exists_of_mem_files_inTurn member
  obtain ⟨visit, isVisit, rfl⟩ := List.mem_map.mp isAttempt
  obtain ⟨held, isListed, allowed, written⟩ := exists_of_mem_files_attend inside
  obtain ⟨holds, names⟩ := names_of_mem_visits named down root begins here visit isVisit
  exact ⟨visit.names, held.1, written, allowed,
    (down _ holds held (Visit.mem_listed_iff.mp isListed).2).1, names⟩

/-! ## What stops a walk -/

/-- Something that the walk from `start` comes to stops it, with a failure: the path of an entry
that is no directory is too long to ask whether it is a link, or a directory that is not excluded is
too deep. -/
inductive Halts (walker : Walker) (disk : Disk) (base : Path) (start : Visit) : Failure → Prop where
  /-- The path of an entry that is no directory is too long. -/
  | tooLong {visit : Visit} {held : String × Entry}
      (comes : visit ∈ walker.visits disk base walker.levels start)
      (other : held ∈ visit.others disk base) (asks : walker.followLinks = false)
      (long : Disk.isPathTooLong (base.below (visit.names ++ [held.1])).text) :
      Halts walker disk base start
        (LookupError.tooLong.failure (base.below (visit.names ++ [held.1])).text)
  /-- A directory that is not excluded is too deep. -/
  | tooDeep {visit : Visit} {held : String × Entry}
      (comes : visit ∈ walker.visits disk base walker.levels start)
      (deep : walker.levels ≤ visit.names.length) (kept : held ∈ walker.kept disk base visit) :
      Halts walker disk base start (tooDeepBelow base)

/-- The step `lookAt` fails exactly if links are asked about and the path is too long. -/
theorem failure?_lookAt_eq_some_iff {path : Path} {entry : Entry} :
    (walker.lookAt path entry).failure? = some failure ↔
      walker.followLinks = false ∧ Disk.isPathTooLong path.text ∧
        failure = LookupError.tooLong.failure path.text := by
  unfold lookAt
  cases walker.followLinks <;> cases Disk.isPathTooLong path.text <;> cases entry.isLink <;>
    simp [eq_comm]

/-- If `attend` fails, something is listed with too long a path, or a directory to enter is too
deep. -/
theorem failure?_attend_eq_some (stops : (walker.attend disk base visit).failure? = some failure) :
    (∃ held ∈ visit.others disk base, walker.followLinks = false ∧
      Disk.isPathTooLong (base.below (visit.names ++ [held.1])).text ∧
      failure = LookupError.tooLong.failure (base.below (visit.names ++ [held.1])).text) ∨
    (walker.levels ≤ visit.names.length ∧ (∃ held, held ∈ walker.kept disk base visit) ∧
      failure = tooDeepBelow base) := by
  unfold attend at stops
  rw [Attempt.done_andThen, Attempt.failure?_andThen, Option.or_eq_some_iff] at stops
  rcases stops with stops | ⟨_, stops⟩
  · obtain ⟨attempt, isAttempt, fails⟩ := Attempt.exists_of_failure?_inTurn stops
    obtain ⟨held, isOther, rfl⟩ := List.mem_map.mp isAttempt
    exact .inl ⟨held, isOther, failure?_lookAt_eq_some_iff.mp fails⟩
  · split at stops
    · cases stops
    · rename_i deep
      cases stops
      rw [Bool.or_eq_true, not_or, decide_eq_true_eq, Nat.not_lt, List.isEmpty_iff] at deep
      exact .inr ⟨deep.1, List.exists_mem_of_ne_nil _ deep.2, rfl⟩

/-- If `attend` does not fail, everything that is listed has a path of a possible length, and no
directory to enter is too deep. -/
theorem failure?_attend_eq_none (goes : (walker.attend disk base visit).failure? = none) :
    (walker.followLinks = false → ∀ held ∈ visit.others disk base,
      Disk.isPathTooLong (base.below (visit.names ++ [held.1])).text = false) ∧
    (walker.levels ≤ visit.names.length → walker.kept disk base visit = []) := by
  unfold attend at goes
  rw [Attempt.done_andThen, Attempt.failure?_andThen, Option.or_eq_none_iff,
    Attempt.failure?_inTurn_eq_none_iff] at goes
  obtain ⟨each, deeper⟩ := goes
  constructor
  · intro asks held isOther
    cases long : Disk.isPathTooLong (base.below (visit.names ++ [held.1])).text with
    | false => rfl
    | true =>
        -- With too long a path, `lookAt` would have failed here.
        have fails :
            (walker.lookAt (base.below (visit.names ++ [held.1])) held.2).failure? = some _ :=
          failure?_lookAt_eq_some_iff.mpr ⟨asks, long, rfl⟩
        rw [each _ (List.mem_map_of_mem isOther)] at fails
        cases fails
  · intro deep
    split at deeper
    · rename_i shallow
      rw [Bool.or_eq_true, decide_eq_true_eq, List.isEmpty_iff] at shallow
      exact shallow.resolve_left (Nat.not_lt.mpr deep)
    · cases deeper

/-- If `attend` does not fail, it contributes the directories that are `excluded` and what it looks
at. -/
theorem expansion_attend_eq (goes : (walker.attend disk base visit).failure? = none) :
    (walker.attend disk base visit).expansion =
      (Expansion.join ((walker.excluded disk base visit).map fun _ => .left)).append
        (.join ((visit.others disk base).map fun held =>
          (walker.lookAt (base.below (visit.names ++ [held.1])) held.2).expansion)) := by
  unfold attend at goes ⊢
  rw [Attempt.done_andThen, Attempt.failure?_andThen, Option.or_eq_none_iff,
    Attempt.failure?_inTurn_eq_none_iff] at goes
  obtain ⟨each, deeper⟩ := goes
  rw [Attempt.done_andThen, Attempt.inTurn_eq_done each, Attempt.done_andThen, List.map_map]
  split
  · rw [Attempt.expansion_done, Expansion.append_nothing]
    rfl
  · rw [if_neg ‹_›] at deeper
    cases deeper

/-- If `walk` fails, the walk has `Halts` with the same failure. -/
theorem halts_of_failure?_walk (stops : (walker.walk disk base start).failure? = some failure) :
    walker.Halts disk base start failure := by
  obtain ⟨attempt, isAttempt, fails⟩ := Attempt.exists_of_failure?_inTurn stops
  obtain ⟨visit, comes, rfl⟩ := List.mem_map.mp isAttempt
  rcases failure?_attend_eq_some fails with
    ⟨held, other, asks, long, rfl⟩ | ⟨deep, ⟨held, isKept⟩, rfl⟩
  · exact .tooLong comes other asks long
  · exact .tooDeep comes deep isKept

/-- If `walk` does not fail, the walk has `Halts` with no failure. -/
theorem not_halts_of_failure?_walk (goes : (walker.walk disk base start).failure? = none) :
    ¬ walker.Halts disk base start failure := by
  have each := Attempt.failure?_inTurn_eq_none_iff.mp goes
  intro halts
  cases halts with
  | tooLong comes other asks long =>
      obtain ⟨short, _⟩ := failure?_attend_eq_none (each _ (List.mem_map_of_mem comes))
      rw [short asks _ other] at long
      cases long
  | tooDeep comes deep isKept =>
      obtain ⟨_, shallow⟩ := failure?_attend_eq_none (each _ (List.mem_map_of_mem comes))
      rw [shallow deep] at isKept
      cases isKept

/-- A walk fails exactly if something that it comes to `Halts` it. -/
theorem exists_failure?_walk_iff :
    (∃ failure, (walker.walk disk base start).failure? = some failure) ↔
      ∃ failure, walker.Halts disk base start failure := by
  constructor
  · rintro ⟨failure, stops⟩
    exact ⟨failure, halts_of_failure?_walk stops⟩
  · rintro ⟨failure, halts⟩
    cases ends : (walker.walk disk base start).failure? with
    | some reason => exact ⟨reason, rfl⟩
    | none => exact absurd halts (not_halts_of_failure?_walk ends)

end Walker

end Footgun
