import Footgun.Proofs.ConfigJournal
import Footgun.Proofs.JsonRefusal

/-! # Contents that stop loading

A configuration file that is no document of the data format counts as none, and a warning says so.
Three kinds of contents are not caught, though, and stop the run: bytes that are no text, integers
with too many digits, and values that are nested too deeply. Main definitions:

* `Config.Stops` — the contents that stop loading, each with the kind of the failure.

The main statement is `Config.load_stops_iff`. -/

namespace Footgun.Config

open Journal (Event)

/-- Bytes of a file that stop loading, with the kind of the failure. -/
inductive Stops (bytes : ByteArray) : FailureKind → Prop where
  /-- The bytes are no text. -/
  | noText (broken : Text.decode? bytes = none) : Stops bytes .noText
  /-- An integer has too many digits. -/
  | hugeInteger {text : String} (decoded : Text.decode? bytes = some text)
      (refused : Json.read text = .error .hugeInteger) : Stops bytes .badValue
  /-- A value is nested too deeply. -/
  | tooDeep {text : String} (decoded : Text.decode? bytes = some text)
      (refused : Json.read text = .error .tooDeep) : Stops bytes .tooDeep

variable {disk : Disk} {path : Path} {bytes : ByteArray} {text : String}

/-! ## The file -/

/-- If `loadFile` fails, the file has bytes with `Stops bytes failure.kind`. -/
theorem exists_stops_of_loadFile {failure : Failure}
    (failed : loadFile disk path = .error failure) :
    ∃ bytes, disk.read path = .ok bytes ∧ Stops bytes failure.kind := by
  -- Of the ends of `loadFile`, three are failures: no text, too many digits, too many levels.
  rw [loadFile] at failed
  split at failed
  · cases failed
  · cases failed
  · split at failed
    · cases failed
    · rename_i bytes found
      refine ⟨bytes, found, ?_⟩
      split at failed
      · rename_i broken
        cases failed
        exact .noText broken
      · rename_i text decoded
        split at failed
        · cases failed
        · rename_i refused
          cases failed
          exact .hugeInteger decoded refused
        · rename_i refused
          cases failed
          exact .tooDeep decoded refused
        · cases failed

/-- If the file has bytes with `Stops bytes kind`, `loadFile` fails with a failure of this
`kind`. -/
theorem Stops.loadFile_eq_error {kind : FailureKind} (stops : Stops bytes kind)
    (found : disk.read path = .ok bytes) :
    ∃ failure, loadFile disk path = .error failure ∧ failure.kind = kind := by
  rw [loadFile, Disk.probe_of_read found]
  cases stops with
  | noText broken =>
      simp only [found, broken]
      exact ⟨_, rfl, rfl⟩
  | hugeInteger decoded refused =>
      simp only [found, decoded, refused]
      exact ⟨_, rfl, rfl⟩
  | tooDeep decoded refused =>
      simp only [found, decoded, refused]
      exact ⟨_, rfl, rfl⟩

/-- If the text of the file is read as `.malformed`, `loadFile` gives `withoutFile` with that
cause. -/
theorem loadFile_of_malformed (found : disk.read path = .ok bytes)
    (decoded : Text.decode? bytes = some text) (malformed : Json.read text = .error .malformed) :
    loadFile disk path = .ok (withoutFile path.text "the text is not JSON") := by
  rw [loadFile, Disk.probe_of_read found]
  simp only [found, decoded, malformed]

/-- If no run of digits is too long and no more than `Json.maxLevels` lists and objects are opened,
there is no `kind` with `Stops bytes kind`. -/
theorem not_stops_of_short_of_shallow (decoded : Text.decode? bytes = some text)
    (short : ¬ Json.HasLongRun text.toList)
    (shallow : Json.openings text.toList ≤ Json.maxLevels) (kind : FailureKind) :
    ¬ Stops bytes kind := by
  intro stops
  cases stops with
  | noText broken =>
      rw [decoded] at broken
      cases broken
  | hugeInteger other refused =>
      cases decoded.symm.trans other
      exact short (Json.explains_of_read_eq_error refused)
  | tooDeep other refused =>
      cases decoded.symm.trans other
      have deep : Json.maxLevels < Json.openings text.toList :=
        Json.explains_of_read_eq_error refused
      omega

/-! ## The file and the environment -/

variable {environment : Environment} {root : String}

/-- Loading fails exactly if `loadFile` does at `filePath root`, with the same failure. -/
theorem load_eq_error_iff {failure : Failure} :
    load disk environment root = .error failure ↔
      loadFile disk (filePath root) = .error failure := by
  rw [load_eq]
  constructor
  · exact eq_error_of_map_eq_error
  · intro failed
    rw [failed]
    rfl

/-- Loading fails with a failure of a `kind` exactly if the file has bytes with
`Stops bytes kind`. -/
theorem exists_load_eq_error_iff {kind : FailureKind} :
    (∃ failure, load disk environment root = .error failure ∧ failure.kind = kind) ↔
      ∃ bytes, disk.read (filePath root) = .ok bytes ∧ Stops bytes kind := by
  constructor
  · rintro ⟨failure, failed, rfl⟩
    exact exists_stops_of_loadFile (load_eq_error_iff.mp failed)
  · rintro ⟨bytes, found, stops⟩
    obtain ⟨failure, failed, isKind⟩ := stops.loadFile_eq_error found
    exact ⟨failure, load_eq_error_iff.mpr failed, isKind⟩

/-- Loading succeeds exactly if the file has no bytes with `Stops bytes kind` for any `kind`. -/
theorem exists_load_eq_ok_iff :
    (∃ loaded, load disk environment root = .ok loaded) ↔
      ∀ bytes, disk.read (filePath root) = .ok bytes → ∀ kind, ¬ Stops bytes kind := by
  constructor
  · rintro ⟨loaded, isLoaded⟩ bytes found kind stops
    obtain ⟨failure, failed, _⟩ := exists_load_eq_error_iff.mpr ⟨bytes, found, stops⟩
    rw [isLoaded] at failed
    cases failed
  · intro never
    cases result : load disk environment root with
    | ok loaded => exact ⟨loaded, rfl⟩
    | error failure =>
        obtain ⟨bytes, found, stops⟩ := exists_load_eq_error_iff.mp ⟨failure, result, rfl⟩
        exact absurd stops (never bytes found failure.kind)

/-- A disk whose configuration file holds a single byte that starts no character. -/
def brokenDisk : Disk :=
  .ofFile fileName ⟨#[0xFF]⟩

/-- The configuration file of `brokenDisk` is read as its one byte. -/
theorem read_brokenDisk : brokenDisk.read (filePath ".") = .ok ⟨#[0xFF]⟩ := by
  rw [show filePath "." = ⟨"", [fileName]⟩ by decide, Disk.read, brokenDisk,
    Disk.find_ofFile_self (by decide)]
  rfl

/-- Which contents of a configuration file stop `load`, whatever the environment.

(1) Loading succeeds exactly if the bytes at `filePath root`, if there are any, have
`¬ Stops bytes kind` for every `kind`: they are a text, in which no integer has too many digits and
no value is nested too deeply.

(2) It fails with a failure of a `kind` exactly if the bytes have `Stops bytes kind`.

(3) It succeeds for every text without `Json.HasLongRun` that opens at most `Json.maxLevels` lists
and objects.

(4) A text that is `.malformed` is loaded as if there were no file, with `.configUnusable` and
`.configDefaulted` in front of the other events. -/
theorem load_stops_iff (disk : Disk) (environment : Environment) (root : String) :
    ((∃ loaded, load disk environment root = .ok loaded) ↔
      ∀ bytes, disk.read (filePath root) = .ok bytes → ∀ kind, ¬ Stops bytes kind) ∧
    (∀ kind, (∃ failure, load disk environment root = .error failure ∧ failure.kind = kind) ↔
      ∃ bytes, disk.read (filePath root) = .ok bytes ∧ Stops bytes kind) ∧
    (∀ bytes text, disk.read (filePath root) = .ok bytes → Text.decode? bytes = some text →
      ¬ Json.HasLongRun text.toList → Json.openings text.toList ≤ Json.maxLevels →
      ∃ loaded, load disk environment root = .ok loaded) ∧
    ∀ bytes text, disk.read (filePath root) = .ok bytes → Text.decode? bytes = some text →
      Json.read text = .error .malformed →
      ∃ config events cause,
        load disk environment root =
          .ok (config, .configUnusable (filePath root).text cause :: .configDefaulted :: events) ∧
        ∀ other, Supplies other root none → load other environment root = .ok (config, events) := by
  refine ⟨exists_load_eq_ok_iff, fun kind => exists_load_eq_error_iff, ?_, ?_⟩
  · intro bytes text found decoded short shallow
    refine exists_load_eq_ok_iff.mpr fun other isOther kind => ?_
    cases found.symm.trans isOther
    exact not_stops_of_short_of_shallow decoded short shallow kind
  · intro bytes text found decoded malformed
    refine ⟨overridden environment standard, misspellings environment standard,
      "the text is not JSON", ?_, ?_⟩
    · rw [load_eq, loadFile_of_malformed found decoded malformed]
      rfl
    · intro other absent
      exact absent.load_eq_ok environment

/-- The file of `brokenDisk` stops `load` with `.noText`, although there is a configuration without
a file. -/
theorem load_brokenDisk :
    brokenDisk.read (filePath ".") = .ok ⟨#[0xFF]⟩ ∧
    load brokenDisk [] "." = .error ⟨.noText, "the bytes of .hazardous.json are not UTF-8"⟩ ∧
    load Disk.empty [] "." = .ok (standard, []) := by
  refine ⟨read_brokenDisk, ?_, ?_⟩
  · have broken : Text.decode? ⟨#[0xFF]⟩ = none := by decide
    rw [load_eq_error_iff, loadFile, Disk.probe_of_read read_brokenDisk]
    simp only [read_brokenDisk, broken]
    rw [show (filePath ".").text = ".hazardous.json" by decide]
    rfl
  · exact supplies_empty.load_eq_ok []

end Footgun.Config
