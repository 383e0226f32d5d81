import Footgun.Disk.Path

/-! # Paths and their texts

A path is written by its text and read back from it. Main definitions:

* `Path.IsName` — a text can be one name of a path;
* `Path.Normal` — a path is in normal form: its root is one of the three there are, and its parts
  are names.

The main statements are `Path.normal_ofText`, that reading gives a path in normal form, and
`Path.ofText_text`, that a path in normal form is read back from its text. -/

namespace Footgun

/-- No piece of `items.splitOn separator` holds the separator. -/
theorem not_mem_of_mem_splitOn {α : Type} [BEq α] [LawfulBEq α] {separator : α}
    {items piece : List α} (member : piece ∈ items.splitOn separator) : separator ∉ piece := by
  induction items generalizing piece with
  | nil =>
      rw [List.splitOn_nil, List.mem_singleton] at member
      rw [member]
      exact List.not_mem_nil
  | cons first rest ih =>
      rw [List.splitOn_cons_eq_if_modifyHead] at member
      split at member
      · obtain rfl | later := List.mem_cons.mp member
        · exact List.not_mem_nil
        · exact ih later
      · rename_i other
        -- The first item joins the first piece of the rest.
        cases pieces : rest.splitOn separator with
        | nil => exact absurd pieces (List.splitOn_ne_nil separator rest)
        | cons head tail =>
            rw [pieces, List.modifyHead_cons] at member
            obtain rfl | later := List.mem_cons.mp member
            · rw [List.mem_cons, not_or]
              refine ⟨fun same => other ?_, ih (by rw [pieces]; exact List.mem_cons_self)⟩
              rw [same, beq_self_eq_true]
            · exact ih (by rw [pieces]; exact List.mem_cons_of_mem _ later)

namespace Path

/-- Whether `name` can be one name of a path: it is not empty, not a dot, and holds no slash. -/
def IsName (name : String) : Prop :=
  name ≠ "" ∧ name ≠ "." ∧ '/' ∉ name.toList

instance : DecidablePred IsName := fun name =>
  inferInstanceAs (Decidable (name ≠ "" ∧ name ≠ "." ∧ '/' ∉ name.toList))

/-- A path that `Path.ofText` can give. -/
structure Normal (path : Path) : Prop where
  /-- The root is nothing, one slash or two slashes. -/
  root : path.root = "" ∨ path.root = "/" ∨ path.root = "//"
  /-- The parts are names. -/
  names : ∀ name ∈ path.parts, IsName name

/-! ## Reading gives a normal form -/

/-- The root of a text is `""`, `"/"` or `"//"`. -/
theorem rootOf_cases (text : List Char) :
    rootOf text = "" ∨ rootOf text = "/" ∨ rootOf text = "//" := by
  rw [rootOf]
  split
  · exact .inl rfl
  · exact .inr (.inr rfl)
  · exact .inr (.inl rfl)

/-- The path `ofText text` is `Normal`. -/
theorem normal_ofText (text : String) : (Path.ofText text).Normal := by
  refine ⟨rootOf_cases text.toList, ?_⟩
  intro name member
  rw [ofText, List.mem_filter] at member
  obtain ⟨piece, kept⟩ := member
  obtain ⟨letters, isPiece, rfl⟩ := List.mem_map.mp piece
  rw [Bool.and_eq_true, decide_eq_true_eq, decide_eq_true_eq] at kept
  refine ⟨kept.1, kept.2, ?_⟩
  rw [String.toList_ofList]
  exact not_mem_of_mem_splitOn isPiece

/-! ## Reading undoes writing -/

/-- Names joined by slashes do not start with a slash. -/
theorem head?_intercalate_ne {names : List String} (areNames : ∀ name ∈ names, IsName name) :
    (['/'].intercalate (names.map String.toList)).head? ≠ some '/' := by
  cases names with
  | nil => simp
  | cons first rest =>
      obtain ⟨notEmpty, _, noSlash⟩ := areNames first List.mem_cons_self
      cases letters : first.toList with
      | nil => exact absurd (String.toList_eq_nil_iff.mp letters) notEmpty
      | cons letter others =>
          rw [letters, List.mem_cons, not_or] at noSlash
          have start :
              (['/'].intercalate ((first :: rest).map String.toList)).head? = some letter := by
            cases rest <;> simp [letters]
          rw [start]
          exact fun same => noSlash.1 (Option.some.inj same).symm

/-- Slashes in front of a text that starts with none are its root. -/
theorem rootOf_append {slashes : String} {letters : List Char}
    (root : slashes = "" ∨ slashes = "/" ∨ slashes = "//") (start : letters.head? ≠ some '/') :
    rootOf (slashes.toList ++ letters) = slashes := by
  have none : letters.takeWhile (· == '/') = [] := by
    cases letters with
    | nil => rfl
    | cons letter rest =>
        rw [List.takeWhile_cons_of_neg]
        exact fun same => start (by rw [List.head?_cons, eq_of_beq same])
  obtain rfl | rfl | rfl := root <;> simp [rootOf, none]

/-- Names joined by slashes are found again between the slashes. -/
theorem filter_splitOn_intercalate {names : List String} (areNames : ∀ name ∈ names, IsName name) :
    (((['/'].intercalate (names.map String.toList)).splitOn '/').map String.ofList).filter
      (fun name => name ≠ "" && name ≠ ".") = names := by
  cases names with
  | nil => simp
  | cons first rest =>
      -- No name holds a slash, and none is dropped.
      rw [List.splitOn_intercalate]
      · rw [List.map_map, List.filter_eq_self.mpr]
        · simp
        · intro name member
          obtain ⟨original, isOriginal, rfl⟩ := List.mem_map.mp member
          obtain ⟨notEmpty, notDot, _⟩ := areNames original isOriginal
          simp [notEmpty, notDot]
      · intro letters member
        obtain ⟨name, isName, rfl⟩ := List.mem_map.mp member
        exact (areNames name isName).2.2
      · simp

/-- A slash in front of a text adds no name. -/
theorem filter_splitOn_slash (letters : List Char) :
    ((('/' :: letters).splitOn '/').map String.ofList).filter (fun name =>
      name ≠ "" && name ≠ ".") =
      ((letters.splitOn '/').map String.ofList).filter (fun name => name ≠ "" && name ≠ ".") := by
  rw [List.splitOn_cons_eq_if_modifyHead, if_pos (beq_self_eq_true _), List.map_cons,
    List.filter_cons_of_neg (by decide)]

/-- A path that is `Normal` is read back from its text. -/
theorem ofText_text {path : Path} (normal : path.Normal) : Path.ofText path.text = path := by
  obtain ⟨root, parts⟩ := path
  rw [text]
  split
  · rename_i empty
    rw [Bool.and_eq_true, decide_eq_true_eq, List.isEmpty_iff] at empty
    obtain ⟨rfl, rfl⟩ := empty
    decide
  · have letters : (root ++ "/".intercalate parts).toList =
        root.toList ++ ['/'].intercalate (parts.map String.toList) := by
      rw [String.toList_append, String.toList_intercalate]
      rfl
    rw [ofText, letters, rootOf_append normal.root (head?_intercalate_ne normal.names)]
    congr 1
    -- The slashes of the root only add empty pieces, which do not count.
    obtain rfl | rfl | rfl := normal.root
    · exact filter_splitOn_intercalate normal.names
    · exact (filter_splitOn_slash _).trans (filter_splitOn_intercalate normal.names)
    · exact (filter_splitOn_slash _).trans
        ((filter_splitOn_slash _).trans (filter_splitOn_intercalate normal.names))

end Path

end Footgun
