/-! # Statistics of a selection

What a selection of files counts on its way. -/

namespace Footgun

/-- Counts of a selection. -/
structure Statistics where
  /-- The files that were looked at. -/
  totalFiles : Nat
  /-- The files that the last selection gave. -/
  selectedFiles : Nat
  /-- The directories that were left out. -/
  skippedDirectories : Nat
  /-- The targets that do not exist. -/
  missingTargets : Nat
  deriving DecidableEq, Repr

/-- Nothing counted yet. -/
def Statistics.zero : Statistics :=
  ⟨0, 0, 0, 0⟩

/-- The counts in one line. -/
def Statistics.text (statistics : Statistics) : String :=
  let entry (name : String) (count : Nat) : String := s!"'{name}': {count}"
  "\x7b" ++ ", ".intercalate [
    entry "total_files" statistics.totalFiles,
    entry "selected_files" statistics.selectedFiles,
    entry "skipped_dirs" statistics.skippedDirectories,
    entry "missing_targets" statistics.missingTargets] ++ "\x7d"

end Footgun
