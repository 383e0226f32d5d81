import Footgun.Proofs.DiskShape
import Footgun.Proofs.SelectionFilter

/-! # Selected files without a NUL

No name on a disk holds a NUL, and a path that holds one leads nowhere. So the paths of the selected
files hold none, whatever the targets are, and every selected file can be looked up. Main
definitions:

* `Entry.NulFree` — no name in an entry holds a NUL.

The main statement is `Walker.nul_not_mem_of_mem_select`. -/

namespace Footgun

/-! ## Texts of paths -/

/-- An item other than the separator is in `[separator].intercalate pieces` exactly if it is in a
piece. -/
theorem mem_intercalate_of_ne {α : Type} {item separator : α} (different : item ≠ separator)
    {pieces : List (List α)} :
    item ∈ [separator].intercalate pieces ↔ ∃ piece ∈ pieces, item ∈ piece := by
  induction pieces with
  | nil => simp
  | cons first rest ih =>
      cases rest with
      | nil => simp
      | cons second others =>
          rw [List.intercalate_cons_cons, List.mem_append, List.mem_append, ih]
          simp [different]

namespace Path

/-- There is a NUL in `path.text` exactly if there is one in the root or in a part. -/
theorem nul_mem_text_iff (path : Path) :
    '\x00' ∈ path.text.toList ↔
      '\x00' ∈ path.root.toList ∨ ∃ part ∈ path.parts, '\x00' ∈ part.toList := by
  rw [text]
  split
  · rename_i empty
    rw [Bool.and_eq_true, decide_eq_true_eq, List.isEmpty_iff] at empty
    simp [empty.1, empty.2]
  · rw [String.toList_append, List.mem_append, String.toList_intercalate]
    refine or_congr_right ?_
    rw [show "/".toList = ['/'] from rfl, mem_intercalate_of_ne (by decide)]
    constructor
    · rintro ⟨letters, isLetters, inside⟩
      obtain ⟨part, isPart, rfl⟩ := List.mem_map.mp isLetters
      exact ⟨part, isPart, inside⟩
    · rintro ⟨part, isPart, inside⟩
      exact ⟨part.toList, List.mem_map.mpr ⟨part, isPart, rfl⟩, inside⟩

/-- There is a NUL in the path of a text exactly if there is one in the text. -/
theorem nul_mem_text_ofText_iff (letters : String) :
    '\x00' ∈ (ofText letters).text.toList ↔ '\x00' ∈ letters.toList := by
  have noRoot : '\x00' ∉ (ofText letters).root.toList := by
    change '\x00' ∉ (rootOf letters.toList).toList
    rcases rootOf_cases letters.toList with same | same | same <;>
      · rw [same]
        decide
  have pieces : '\x00' ∈ letters.toList ↔
      ∃ piece ∈ letters.toList.splitOn '/', '\x00' ∈ piece := by
    rw [← mem_intercalate_of_ne (by decide : '\x00' ≠ '/'), List.intercalate_splitOn]
  rw [nul_mem_text_iff, or_iff_right noRoot, pieces]
  constructor
  · rintro ⟨part, isPart, inside⟩
    rw [ofText, List.mem_filter] at isPart
    obtain ⟨piece, isPiece, rfl⟩ := List.mem_map.mp isPart.1
    exact ⟨piece, isPiece, by simpa using inside⟩
  · rintro ⟨piece, isPiece, inside⟩
    refine ⟨String.ofList piece, ?_, by simpa using inside⟩
    rw [ofText, List.mem_filter]
    refine ⟨List.mem_map.mpr ⟨piece, isPiece, rfl⟩, ?_⟩
    -- An empty piece and a dot are left out, and neither holds a NUL.
    rw [Bool.and_eq_true, decide_eq_true_eq, decide_eq_true_eq]
    constructor
    · intro empty
      rw [← String.toList_ofList (l := piece), empty] at inside
      cases inside
    · intro dot
      rw [← String.toList_ofList (l := piece), dot] at inside
      exact absurd inside (by decide)

/-- Names without a NUL below a path without one make a path without one. -/
theorem nul_not_mem_below {path : Path} {names : List String} (above : '\x00' ∉ path.text.toList)
    (noNul : ∀ name ∈ names, '\x00' ∉ name.toList) : '\x00' ∉ (path.below names).text.toList := by
  rw [nul_mem_text_iff, not_or] at above ⊢
  refine ⟨above.1, ?_⟩
  rintro ⟨part, isPart, inside⟩
  rcases List.mem_append.mp isPart with before | behind
  · exact above.2 ⟨part, before, inside⟩
  · exact noNul part behind inside

end Path

/-! ## Names on a disk -/

/-- No name in an entry, at whatever depth, holds a NUL. -/
inductive Entry.NulFree : Entry → Prop where
  /-- A file holds no names. -/
  | file (content : ByteArray) : NulFree (.file content)
  /-- A link holds no names. -/
  | link (target : String) : NulFree (.link target)
  /-- The names of a directory hold no NUL, nor do those below it. -/
  | directory {entries : List (String × Entry)} (names : ∀ entry ∈ entries, '\x00' ∉ entry.1.toList)
      (below : ∀ entry ∈ entries, entry.2.NulFree) : NulFree (.directory entries)

/-- A directory is `NulFree` exactly if its first name has no NUL, and its first entry and the rest
are `NulFree`. -/
theorem Entry.nulFree_cons {name : String} {entry : Entry} {rest : List (String × Entry)} :
    (Entry.directory ((name, entry) :: rest)).NulFree ↔
      '\x00' ∉ name.toList ∧ entry.NulFree ∧ (Entry.directory rest).NulFree := by
  constructor
  · intro free
    cases free with
    | directory names below =>
        rw [List.forall_mem_cons] at names below
        exact ⟨names.1, below.1, .directory names.2 below.2⟩
  · rintro ⟨noNul, first, free⟩
    cases free with
    | directory names below =>
        exact .directory (List.forall_mem_cons.mpr ⟨noNul, names⟩)
          (List.forall_mem_cons.mpr ⟨first, below⟩)

/-- In a directory that is `NulFree`, no name has a NUL, and every entry is `NulFree`. -/
theorem Entry.NulFree.inside {entries : List (String × Entry)}
    (free : (Entry.directory entries).NulFree) :
    ∀ held ∈ entries, '\x00' ∉ held.1.toList ∧ held.2.NulFree := by
  cases free with
  | directory names below => exact fun held isHeld => ⟨names held isHeld, below held isHeld⟩

namespace Disk

variable {disk : Disk}

/-- What `disk.find` finds on a disk that is `NulFree` is `NulFree`. -/
theorem nulFree_of_find {follow : Bool} {path : Path} {located : Located} {found : Entry}
    (free : disk.root.NulFree) (leads : disk.find follow path = .ok located)
    (isFound : located.found? = some found) : found.NulFree :=
  descend_induction (fun _ free held isHeld => (free.inside held isHeld).2) free
    ((found?_of_find leads).symm.trans isFound)

/-- A path that `disk.find` follows holds no NUL. -/
theorem nul_not_mem_of_find {follow : Bool} {path : Path} {located : Located}
    (leads : disk.find follow path = .ok located) : '\x00' ∉ path.text.toList := by
  intro inside
  rw [(find_eq_nulInside_iff disk follow path).mpr inside] at leads
  cases leads

/-! ## Searching -/

/-- There is a NUL in `joinName above name` exactly if there is one in `above` or in `name`. -/
theorem nul_mem_joinName_iff (above name : List Char) :
    '\x00' ∈ joinName above name ↔ '\x00' ∈ above ∨ '\x00' ∈ name := by
  unfold joinName
  split
  · rename_i empty
    simp [List.isEmpty_iff.mp empty]
  · split
    · exact List.mem_append
    · simp

/-- On a disk that is `NulFree`, no member of `names`, together with its path, holds a NUL. -/
theorem nul_not_mem_of_mem_names {directoriesOnly : Bool} {path name : List Char}
    {found : List (List Char)} (free : disk.root.NulFree)
    (search : disk.names directoriesOnly path = .ok found) (member : name ∈ found) :
    '\x00' ∉ joinName path name := by
  unfold names at search
  dsimp only at search
  split at search
  · rename_i leads
    cases search
    obtain ⟨entry, isEntry, rfl⟩ := List.mem_map.mp member
    -- The path is followed, and the name is held by the directory that it leads to.
    have above := nul_not_mem_of_find leads
    rw [Path.nul_mem_text_ofText_iff, String.toList_ofList] at above
    rw [nul_mem_joinName_iff, not_or]
    refine ⟨above, ?_⟩
    cases nulFree_of_find free leads rfl with
    | directory names below => exact names entry (List.mem_filter.mp isEntry).1
  · cases search
  · cases search
    cases member

/-- On a disk that is `NulFree`, no member of `namesLike`, together with its path, holds a NUL. -/
theorem nul_not_mem_of_mem_namesLike {directoriesOnly : Bool} {path last name : List Char}
    {found : List (List Char)} (free : disk.root.NulFree)
    (search : disk.namesLike directoriesOnly path last = .ok found) (member : name ∈ found) :
    '\x00' ∉ joinName path name := by
  unfold namesLike at search
  by_cases magic : hasMagic last
  · rw [if_pos magic] at search
    obtain ⟨names, isNames, kept⟩ := exists_of_bind_eq_ok search
    cases kept
    have isName : name ∈ names := (List.mem_filter.mp (List.mem_filter.mp member).1).1
    exact nul_not_mem_of_mem_names free isNames isName
  · rw [if_neg magic] at search
    dsimp only at search
    -- The last part is taken as it is, if there is something under it.
    have there : name = last ∧ ∃ follow located,
        disk.find follow (Path.ofText (String.ofList (joinName path last))) = .ok located := by
      split at search
      · rw [← Except.ok.inj search] at member
        split at member
        · rename_i directory
          refine ⟨List.mem_singleton.mp member, true, ?_⟩
          unfold isDirectory found? at directory
          cases leads : disk.find true (Path.ofText (String.ofList (joinName path last))) with
          | ok located => exact ⟨located, rfl⟩
          | error error => simp [leads] at directory
        · cases member
      · rw [← Except.ok.inj search] at member
        split at member
        · rename_i named
          refine ⟨List.mem_singleton.mp member, false, ?_⟩
          unfold hasName at named
          cases leads : disk.find false (Path.ofText (String.ofList (joinName path last))) with
          | ok located => exact ⟨located, rfl⟩
          | error error => simp [leads] at named
        · cases member
    obtain ⟨rfl, follow, located, leads⟩ := there
    have whole := nul_not_mem_of_find leads
    rwa [Path.nul_mem_text_ofText_iff, String.toList_ofList] at whole

/-- On a disk that is `NulFree`, no member of `glob` holds a NUL. -/
theorem nul_not_mem_of_mem_glob {pattern hit : String} {found : List String}
    (free : disk.root.NulFree) (search : disk.glob pattern = .ok found) (member : hit ∈ found) :
    '\x00' ∉ hit.toList := by
  unfold glob at search
  obtain ⟨paths, isPaths, same⟩ := exists_of_bind_eq_ok search
  cases same
  obtain ⟨path, isPath, rfl⟩ := List.mem_map.mp member
  rw [String.toList_ofList]
  rw [globParts_succ] at isPaths
  split at isPaths
  · have whole := nul_not_mem_of_mem_namesLike free isPaths isPath
    rw [nul_mem_joinName_iff, not_or] at whole
    exact whole.2
  · -- A path is found below one of the directories, as that directory and a name.
    obtain ⟨bases, _, joined⟩ := exists_of_bind_eq_ok isPaths
    obtain ⟨lists, each, rfl⟩ := exists_of_map_eq_ok joined
    obtain ⟨list, isList, inside⟩ := List.mem_flatten.mp isPath
    obtain ⟨base, _, below⟩ := exists_of_mem_mapM each isList
    obtain ⟨names, isNames, rfl⟩ := exists_of_map_eq_ok below
    obtain ⟨name, isName, rfl⟩ := List.mem_map.mp inside
    exact nul_not_mem_of_mem_namesLike free isNames isName

end Disk

/-! ## Selecting -/

namespace Walker

variable {walker : Walker} {disk : Disk} {file : String}

/-- On a disk that is `NulFree`, no file of `walkDirectory` holds a NUL. -/
theorem nul_not_mem_of_mem_walkDirectory {path : Path} (free : disk.root.NulFree)
    (member : file ∈ (walker.walkDirectory disk path).expansion.files) : '\x00' ∉ file.toList := by
  unfold walkDirectory at member
  split at member
  · rename_i leads
    obtain ⟨between, name, rfl, _, noNul, names⟩ := exists_of_mem_files_walk
      (fun name => '\x00' ∉ name.toList) (fun _ => Entry.NulFree.inside) free
      (Disk.nulFree_of_find free leads rfl) rfl member
    refine Path.nul_not_mem_below (Disk.nul_not_mem_of_find leads) fun part isPart => ?_
    rcases List.mem_append.mp isPart with above | last
    · exact (names part above).1
    · rw [List.mem_singleton.mp last]
      exact noNul
  · cases member
  · cases member

/-- On a disk that is `NulFree`, no file of `expand` holds a NUL. -/
theorem nul_not_mem_of_mem_expand {target : String} (free : disk.root.NulFree)
    (member : file ∈ (walker.expand disk target).expansion.files) : '\x00' ∉ file.toList := by
  unfold expand at member
  split at member
  · exact nul_not_mem_of_mem_walkDirectory free member
  split at member
  · split at member
    · cases member
    · rename_i found search
      obtain ⟨attempt, isAttempt, inside⟩ := Attempt.exists_of_mem_files_inTurn member
      obtain ⟨hit, isHit, rfl⟩ := List.mem_map.mp isAttempt
      unfold expandMatch expandAt at inside
      split at inside
      · cases inside
      · exact nul_not_mem_of_mem_walkDirectory free inside
      · obtain ⟨_, rfl⟩ := Expansion.mem_files_looked.mp inside
        rw [Path.nul_mem_text_ofText_iff]
        exact Disk.nul_not_mem_of_mem_glob free search (mem_inOrder.mp isHit)
  · unfold expandPath expandAt at member
    split at member
    · cases member
    · exact nul_not_mem_of_mem_walkDirectory free member
    rename_i probed
    unfold walkOther at member
    split at member
    · obtain ⟨_, rfl⟩ := Expansion.mem_files_looked.mp member
      -- There is something at the path, so it was followed.
      rw [Disk.probe] at probed
      split at probed
      · rename_i leads
        exact Disk.nul_not_mem_of_find leads
      · cases probed
      · cases probed
    · cases member

/-- On a disk that is `NulFree`, no file of `select` holds a NUL. -/
theorem nul_not_mem_of_mem_select {before : Statistics} {targets : List String}
    {selection : Selection} (free : disk.root.NulFree)
    (selected : walker.select disk before targets = .ok selection)
    (member : file ∈ selection.files) : '\x00' ∉ file.toList := by
  obtain ⟨target, _, inside⟩ := expand_of_mem_select selected member
  exact nul_not_mem_of_mem_expand free inside

end Walker

end Footgun
