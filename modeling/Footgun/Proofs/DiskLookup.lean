import Footgun.Disk.Basic
import Footgun.Proofs.Failing

/-! # Looking up files

The size and the bytes of a file are asked for once its path has been followed, so both are refused
together and for the same reason; and what can be read is there. Main definitions:

* `Disk.IsPlainName` — a name that the working directory may hold;
* `Disk.ofFile` — a disk with one file.

The main statements are `Disk.find_name` and `Disk.read_eq_error_of_size`. -/

namespace Footgun.Disk

variable {disk : Disk} {path : Path}

/-- A name that the working directory may hold: it can be looked up and does not go up. -/
def IsPlainName (name : String) : Prop :=
  name ≠ ".." ∧ isTooLong name = false ∧ '\x00' ∉ name.toList

instance : DecidablePred IsPlainName := fun name =>
  inferInstanceAs (Decidable (name ≠ ".." ∧ isTooLong name = false ∧ '\x00' ∉ name.toList))

/-- A plain `name` leads to `entries.lookup name` in the working directory, unless that is a
link. -/
theorem find_name {entries : List (String × Entry)} {name : String} (plain : IsPlainName name)
    (noLink : ∀ target, entries.lookup name ≠ some (.link target)) (follow : Bool) :
    (Disk.mk (.directory entries) []).find follow ⟨"", [name]⟩ =
      .ok ⟨[name], entries.lookup name, maxLinks⟩ := by
  obtain ⟨notUp, short, noNul⟩ := plain
  have written : (Path.mk "" [name]).text = name := by simp [Path.text]
  -- A name that is not too long makes no path that is too long.
  have fits : isPathTooLong name = false := by
    have bound : ¬ maxNameBytes < name.utf8ByteSize := of_decide_eq_false short
    refine decide_eq_false ?_
    unfold maxPathBytes maxNameBytes at *
    omega
  have start : startOf [] (Path.mk "" [name]) = [] := ite_self []
  rw [find, written, if_neg (by simpa using noNul), fits, if_neg Bool.false_ne_true, start]
  simp only [descend]
  cases held : entries.lookup name with
  | none => simp [locate, descend, notUp, short, held]
  | some entry =>
      cases entry with
      | file content => simp [locate, descend, notUp, short, held]
      | directory inner => simp [locate, descend, notUp, short, held]
      | link target => exact absurd held (noLink target)

/-- A disk with one file `name`. -/
def ofFile (name : String) (bytes : ByteArray) : Disk :=
  { root := .directory [(name, .file bytes)] }

/-- On the disk `ofFile name bytes`, a plain name `asked` leads to the file if `asked = name`, and
to a place where nothing is if not. -/
theorem find_ofFile {asked : String} (plain : IsPlainName asked) (name : String) (bytes : ByteArray)
    (follow : Bool) :
    (ofFile name bytes).find follow ⟨"", [asked]⟩ =
      .ok ⟨[asked], if asked = name then some (.file bytes) else none, maxLinks⟩ := by
  have held : [(name, Entry.file bytes)].lookup asked =
      if asked = name then some (.file bytes) else none := by
    by_cases same : asked = name
    · simp [same]
    · simp [same, List.lookup_cons, beq_false_of_ne same]
  have noLink : ∀ target, [(name, Entry.file bytes)].lookup asked ≠ some (.link target) := by
    intro target
    rw [held]
    split <;> simp
  rw [ofFile, find_name plain noLink, held]

/-- On the disk `ofFile name bytes`, `name` leads to the file. -/
theorem find_ofFile_self {name : String} (plain : IsPlainName name) (bytes : ByteArray)
    (follow : Bool) :
    (ofFile name bytes).find follow ⟨"", [name]⟩ = .ok ⟨[name], some (.file bytes), maxLinks⟩ := by
  rw [find_ofFile plain, if_pos rfl]

/-- Looking for a place by `locate` never fails with `.nulInside`. -/
theorem locate_ne_nulInside (follow : Bool) (links : Nat) (place parts : List String) :
    disk.locate follow links place parts ≠ .error .nulInside := by
  fun_induction locate disk follow links place parts <;> simp_all

/-- If `find` fails with `.nulInside`, there is a NUL in the path. -/
theorem nul_mem_of_find {follow : Bool} (refused : disk.find follow path = .error .nulInside) :
    '\x00' ∈ path.text.toList := by
  rw [find] at refused
  split at refused
  · rename_i inside
    exact List.contains_iff_mem.mp inside
  · split at refused
    · cases refused
    · split at refused
      · exact absurd refused (locate_ne_nulInside _ _ _ _)
      · cases refused

/-- Looking up a path by `find` fails with `.nulInside` exactly if there is a NUL in it. -/
theorem find_eq_nulInside_iff (disk : Disk) (follow : Bool) (path : Path) :
    disk.find follow path = .error .nulInside ↔ '\x00' ∈ path.text.toList := by
  refine ⟨nul_mem_of_find, fun inside => ?_⟩
  rw [find, if_pos (List.contains_iff_mem.mpr inside)]

/-- If `read` fails with `.nulInside`, there is a NUL in the path. -/
theorem nul_mem_of_read (refused : disk.read path = .error .nulInside) :
    '\x00' ∈ path.text.toList := by
  rw [read] at refused
  cases found : disk.find true path with
  | error error =>
      rw [found] at refused
      cases refused
      exact nul_mem_of_find found
  | ok located =>
      simp only [found, bind, Except.bind] at refused
      split at refused <;> cases refused

/-- If `size` fails, `read` fails with the same error. -/
theorem read_eq_error_of_size {error : LookupError} (refused : disk.size path = .error error) :
    disk.read path = .error error := by
  rw [size] at refused
  rw [read]
  cases found : disk.find true path with
  | error reason =>
      rw [found] at refused
      cases refused
      rfl
  | ok located =>
      simp only [found, bind, Except.bind] at refused ⊢
      split at refused
      · cases refused
      · cases refused
      · cases refused
        rfl

/-- If `read` gives bytes, `probe` finds a file with them. -/
theorem probe_of_read {bytes : ByteArray} (found : disk.read path = .ok bytes) :
    disk.probe path = .ok (some (.file bytes)) := by
  rw [read] at found
  obtain ⟨located, isLocated, found⟩ := exists_of_bind_eq_ok found
  rw [probe, isLocated]
  split at found
  · rename_i content isFile
    cases found
    exact congrArg Except.ok isFile
  · cases found
  · cases found

/-- If `read` gives bytes, `size` gives their number. -/
theorem size_of_read {bytes : ByteArray} (found : disk.read path = .ok bytes) :
    disk.size path = .ok bytes.size := by
  rw [read] at found
  obtain ⟨located, isLocated, found⟩ := exists_of_bind_eq_ok found
  rw [size, isLocated]
  split at found
  · rename_i content isFile
    cases found
    rw [ok_bind, isFile]
    rfl
  · cases found
  · cases found

end Footgun.Disk
