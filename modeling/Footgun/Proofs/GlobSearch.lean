import Footgun.Disk.Glob
import Footgun.Proofs.DiskLookup

/-! # Searching with patterns

The paths of a pattern are looked for part by part: the directories in front of the last name first,
and then the names in each of them. Main definitions:

* `Disk.globBases`, `Disk.globBelow` — the two steps of a search.

The main statements are `Disk.globParts_succ`, which takes a search apart into these steps, and
`Disk.glob_eq_error`, that only a NUL stops a search. -/

namespace Footgun.Disk

variable {disk : Disk}

/-- Looking for `names` fails with `.nulInside` only. -/
theorem names_eq_error {directoriesOnly : Bool} {path : List Char} {error : LookupError}
    (failed : disk.names directoriesOnly path = .error error) : error = .nulInside := by
  unfold names at failed
  dsimp only at failed
  split at failed
  · cases failed
  · cases failed
    rfl
  · cases failed

/-- Looking for `namesLike` a pattern fails with `.nulInside` only. -/
theorem namesLike_eq_error {directoriesOnly : Bool} {path last : List Char} {error : LookupError}
    (failed : disk.namesLike directoriesOnly path last = .error error) : error = .nulInside := by
  unfold namesLike at failed
  by_cases magic : hasMagic last
  · rw [if_pos magic] at failed
    cases found : disk.names directoriesOnly path with
    | error reason =>
        rw [found] at failed
        cases failed
        exact names_eq_error found
    | ok names =>
        rw [found] at failed
        cases failed
  · rw [if_neg magic] at failed
    dsimp only at failed
    split at failed
    · cases failed
    · cases failed

/-- The directories in which the last name of a pattern is looked for. -/
def globBases (disk : Disk) (fuel : Nat) (above : List Char) :
    Except LookupError (List (List Char)) :=
  if hasMagic above then disk.globParts fuel true above else .ok [above]

/-- The paths below a directory whose last name fits a pattern. -/
def globBelow (disk : Disk) (directoriesOnly : Bool) (last base : List Char) :
    Except LookupError (List (List Char)) :=
  (disk.namesLike directoriesOnly base last).map (List.map (joinName base))

/-- With fuel left, `globParts` looks for the last part of the pattern in the directories
`globBases` finds. -/
theorem globParts_succ (disk : Disk) (fuel : Nat) (directoriesOnly : Bool) (pattern : List Char) :
    disk.globParts (fuel + 1) directoriesOnly pattern =
      if (splitLast pattern).1.isEmpty then disk.namesLike directoriesOnly [] (splitLast pattern).2
      else disk.globBases fuel (splitLast pattern).1 >>= fun bases =>
        (bases.mapM (disk.globBelow directoriesOnly (splitLast pattern).2)).map List.flatten := by
  have below : disk.globBelow directoriesOnly (splitLast pattern).2 = fun base => do
      return (← disk.namesLike directoriesOnly base (splitLast pattern).2).map (joinName base) := by
    funext base
    unfold globBelow
    cases disk.namesLike directoriesOnly base (splitLast pattern).2 <;> rfl
  rw [below]
  unfold globParts globBases
  dsimp only
  split
  · rfl
  · split <;> rfl

/-- Looking for the paths of a pattern, `globParts` fails with `.nulInside` only. The induction is
on `fuel`. -/
theorem globParts_eq_error {fuel : Nat} {directoriesOnly : Bool} {pattern : List Char}
    {error : LookupError} (failed : disk.globParts fuel directoriesOnly pattern = .error error) :
    error = .nulInside := by
  induction fuel generalizing directoriesOnly pattern with
  | zero => cases failed
  | succ fuel ih =>
      rw [globParts_succ] at failed
      split at failed
      · exact namesLike_eq_error failed
      · -- The directories are looked for first, with less fuel, and then each of them is searched.
        cases bases : disk.globBases fuel (splitLast pattern).1 with
        | error reason =>
            rw [bases] at failed
            cases failed
            unfold globBases at bases
            split at bases
            · exact ih bases
            · cases bases
        | ok found =>
            rw [bases, ok_bind] at failed
            obtain ⟨base, _, fails⟩ := exists_of_mapM_eq_error (eq_error_of_map_eq_error failed)
            exact namesLike_eq_error (eq_error_of_map_eq_error fails)

/-- The search `glob` fails with `.nulInside` only. -/
theorem glob_eq_error {pattern : String} {error : LookupError}
    (failed : disk.glob pattern = .error error) : error = .nulInside := by
  unfold glob at failed
  cases found : disk.globParts (pattern.toList.length + 1) false pattern.toList with
  | error reason =>
      rw [found] at failed
      cases failed
      exact globParts_eq_error found
  | ok paths =>
      rw [found] at failed
      cases failed

end Footgun.Disk
