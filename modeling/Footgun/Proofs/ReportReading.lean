import Footgun.Output.Report
import Footgun.Proofs.JsonRoundTrip
import Footgun.Text.Utf8

/-! # Reading a report

The report of a scan is read back as the document that was written, and the findings are got back
from that. Main definitions:

* `Finding.ofJson?` — the finding of an object, an absent message being the empty one;
* `Output.findingsOf?` — the findings of a document.

The main statement is `Output.read_report`. -/

namespace Footgun

open Json (Readable)

/-- The number of a value that is an integer. -/
def Json.integer? : Json → Option Int
  | int value => some value
  | _ => none

/-- The finding of an object. Without a message its message is empty. -/
def Finding.ofJson? (value : Json) : Option Finding := do
  let path ← (value.get? "file").bind Json.text?
  let line ← (value.get? "line").bind Json.integer?
  let column ← (value.get? "column").bind Json.integer?
  let command ← (value.get? "command").bind Json.text?
  let message ← ((value.get? "message").getD (.str "")).text?
  return ⟨path, ⟨line, column⟩, command, message⟩

/-- The findings of a document. -/
def Output.findingsOf? : Json → Option (List Finding)
  | .obj [("findings", .arr items), ("total", .int _)] => items.mapM Finding.ofJson?
  | _ => none

/-! ## One finding -/

/-- The finding is got back from `finding.toJson` by `ofJson?`. -/
theorem Finding.ofJson?_toJson (finding : Finding) : ofJson? finding.toJson = some finding := by
  obtain ⟨path, ⟨line, column⟩, command, message⟩ := finding
  by_cases empty : message = ""
  · subst empty
    rfl
  · rw [toJson]
    dsimp only
    rw [if_neg empty]
    rfl

/-- The object `finding.toJson` is `Readable`, if line and column have at most `Text.maxDigits`
digits. -/
theorem Finding.readable_toJson {finding : Finding} (levels : Nat)
    (line : finding.position.line.natAbs < 10 ^ Text.maxDigits)
    (column : finding.position.column.natAbs < 10 ^ Text.maxDigits) :
    Readable (levels + 1) finding.toJson := by
  refine .obj ?_ ?_
  · intro field member
    rcases List.mem_append.mp member with always | sometimes
    · simp only [List.mem_cons, List.not_mem_nil, or_false] at always
      rcases always with rfl | rfl | rfl | rfl
      · exact .str levels _
      · exact .int levels line
      · exact .int levels column
      · exact .str levels _
    · split at sometimes
      · cases sometimes
      · rw [List.mem_singleton.mp sometimes]
        exact .str levels _
  · split <;> simp

/-! ## Reports -/

namespace Output

/-- The findings are got back from `reportJson findings` by `findingsOf?`. -/
theorem findingsOf?_reportJson (findings : List Finding) :
    findingsOf? (reportJson findings) = some findings := by
  rw [reportJson, findingsOf?, List.mapM_map]
  induction findings with
  | nil => rfl
  | cons finding rest ih =>
      rw [List.mapM_cons, ih, Function.comp_apply, Finding.ofJson?_toJson]
      rfl

/-- The document `reportJson findings` is `Readable` from three levels on, if no number has more
than `Text.maxDigits` digits. -/
theorem readable_reportJson {findings : List Finding} (levels : Nat)
    (short : ∀ finding ∈ findings, finding.position.line.natAbs < 10 ^ Text.maxDigits ∧
      finding.position.column.natAbs < 10 ^ Text.maxDigits)
    (few : findings.length < 10 ^ Text.maxDigits) :
    Readable (levels + 3) (reportJson findings) := by
  refine .obj ?_ (by simp)
  intro field member
  simp only [List.mem_cons, List.not_mem_nil, or_false] at member
  rcases member with rfl | rfl
  · refine .arr ?_
    intro item among
    obtain ⟨finding, isFinding, rfl⟩ := List.mem_map.mp among
    exact finding.readable_toJson levels (short finding isFinding).1 (short finding isFinding).2
  · exact .int _ few

/-- If no number has more than `Text.maxDigits` digits, the bytes of `report findings` are a text,
and `read` gives the object with `findings`, in order, and `total`, their number. The findings are
got back from it by `findingsOf?`, so that no other findings have the same object. -/
theorem read_report (findings : List Finding)
    (short : ∀ finding ∈ findings, finding.position.line.natAbs < 10 ^ Text.maxDigits ∧
      finding.position.column.natAbs < 10 ^ Text.maxDigits)
    (few : findings.length < 10 ^ Text.maxDigits) :
    ∃ text value, Text.decode? (report findings).toUTF8 = some text ∧ Json.read text = .ok value ∧
      value =
        .obj [("findings", .arr (findings.map Finding.toJson)), ("total", .int findings.length)] ∧
      findingsOf? value = some findings ∧
      ∀ others : List Finding, reportJson others = value → others = findings := by
  refine ⟨report findings, reportJson findings, Text.decode?_eq_some_iff.mpr rfl,
    Json.read_pretty (readable_reportJson 982 short few), rfl, findingsOf?_reportJson findings, ?_⟩
  intro others same
  have both := findingsOf?_reportJson others
  rw [same, findingsOf?_reportJson findings] at both
  exact (Option.some.inj both).symm

/-- Findings whose texts hold quotes, backslashes, control characters and characters beyond the
first plane; one has no message. -/
def escapedFindings : List Finding :=
  [⟨"a\"b\\c\nd\x01/é😀.sh", ⟨3, 0⟩, "rm", ""⟩, ⟨"Makefile", ⟨-1, 12⟩, "dd", "overwrites\t💾"⟩]

/-- The report on `escapedFindings`, whose texts have to be escaped, is read back. -/
theorem read_report_escapedFindings :
    (∀ finding ∈ escapedFindings, finding.position.line.natAbs < 10 ^ Text.maxDigits ∧
      finding.position.column.natAbs < 10 ^ Text.maxDigits) ∧
    escapedFindings.length < 10 ^ Text.maxDigits ∧
    ∃ text value, Text.decode? (report escapedFindings).toUTF8 = some text ∧
      Json.read text = .ok value ∧
      value = .obj [("findings", .arr (escapedFindings.map Finding.toJson)), ("total", .int 2)] ∧
      findingsOf? value = some escapedFindings ∧
      ∀ others : List Finding, reportJson others = value → others = escapedFindings := by
  have small : ∀ n < 100, n < 10 ^ Text.maxDigits := fun n below =>
    Nat.lt_of_lt_of_le below (Nat.pow_le_pow_right (by decide) (by decide) : 10 ^ 2 ≤ _)
  have short : ∀ finding ∈ escapedFindings, finding.position.line.natAbs < 10 ^ Text.maxDigits ∧
      finding.position.column.natAbs < 10 ^ Text.maxDigits := by
    intro finding member
    simp only [escapedFindings, List.mem_cons, List.not_mem_nil, or_false] at member
    rcases member with rfl | rfl
    · exact ⟨small 3 (by decide), small 0 (by decide)⟩
    · exact ⟨small 1 (by decide), small 12 (by decide)⟩
  have few : escapedFindings.length < 10 ^ Text.maxDigits := small 2 (by decide)
  exact ⟨short, few, read_report escapedFindings short few⟩

end Output

end Footgun
