import Footgun.Proofs.DiskLookup
import Footgun.Proofs.FindingOrder
import Footgun.Scan.File
import Mathlib.Logic.ExistsUnique

/-! # How the scan of a file ends

Scanning a file never stops a run. The file cannot be read, it is too large, its text does not
parse, or it is scanned; the journal tells these endings apart. Main definitions:

* `Scan.Unreadable`, `Scan.TooLarge`, `Scan.Unparsable` — why a file is not scanned;
* `Scan.Ending` — the four ways in which the scan of a file ends;
* `Scan.Ending.Holds` — what each of them says about the file, the findings and the journal.

The main statement is `Scan.existsUnique_ending`. -/

namespace Footgun

open Journal (Event Level)
open Syntax (Parser Language Tree Source)

/-! ## Texts of files -/

/-- The language of the files of a kind. Makefiles have none. -/
def FileKind.language? : FileKind → Option Language
  | .go => some .go
  | .makefile => none
  | .shell => some .bash

namespace Scan

/-- The file at `path` cannot be looked up although its size is asked for, cannot be read, or holds
no text. -/
def Unreadable (disk : Disk) (limit : Option Limit) (path : Path) : Prop :=
  (limit.isSome ∧ ∃ error, disk.size path = .error error) ∨
    (∃ error, disk.read path = .error error) ∨
    ∃ bytes, disk.read path = .ok bytes ∧ Text.decode? bytes = none

/-- The size of the file at `path` is not below the `limit`. -/
def TooLarge (disk : Disk) (limit : Option Limit) (path : Path) : Prop :=
  ∃ bound size, limit = some bound ∧ disk.size path = .ok size ∧ bound.count ≤ size

/-- The syntax tree of the text at `path` is marked `erroneous`. -/
def Unparsable (parser : Parser) (disk : Disk) (path : Path) : Prop :=
  ∃ content language, readText disk path = .ok content ∧
    (FileKind.ofPath path.text).language? = some language ∧
    (parser.tree language content).label.erroneous

variable {parser : Parser} {disk : Disk} {rules : RuleSet} {resolvePaths : Bool}
  {limit : Option Limit} {path : Path} {content : String}

/-- If `readText` fails, `disk.read` does, or its bytes cannot be decoded. -/
theorem readText_eq_error {obstacle : Obstacle} (failed : readText disk path = .error obstacle) :
    (∃ error, disk.read path = .error error ∧ obstacle = .unreadable error) ∨
      ∃ bytes, disk.read path = .ok bytes ∧ Text.decode? bytes = none ∧ obstacle = .noText := by
  rw [readText] at failed
  split at failed
  · rename_i error refused
    cases failed
    exact .inl ⟨error, refused, rfl⟩
  · rename_i bytes found
    split at failed
    · rename_i broken
      cases failed
      exact .inr ⟨bytes, found, broken, rfl⟩
    · cases failed

/-- A file that is `Unreadable` has no text. -/
theorem Unreadable.readText_ne_ok (unreadable : Unreadable disk limit path) :
    readText disk path ≠ .ok content := by
  intro found
  rw [readText] at found
  rcases unreadable with ⟨_, error, refused⟩ | ⟨error, refused⟩ | ⟨bytes, read, broken⟩
  · rw [Disk.read_eq_error_of_size refused] at found
    cases found
  · rw [refused] at found
    cases found
  · rw [read] at found
    simp only [broken] at found
    cases found

/-- If `checkSize` fails, there is a limit, and the file has no size or is `TooLarge`. -/
theorem checkSize_eq_error {obstacle : Obstacle}
    (failed : checkSize disk limit path = .error obstacle) :
    (limit.isSome ∧ ∃ error, disk.size path = .error error ∧ obstacle = .unreadable error) ∨
      ∃ bound, limit = some bound ∧ obstacle = .tooLarge bound ∧ TooLarge disk limit path := by
  cases limit with
  | none => cases failed
  | some bound =>
      rw [checkSize] at failed
      split at failed
      · rename_i error refused
        cases failed
        exact .inl ⟨rfl, error, refused, rfl⟩
      · rename_i size found
        split at failed
        · rename_i excluded
          cases failed
          exact .inr ⟨bound, rfl, rfl, bound, size, rfl, found, of_decide_eq_true excluded⟩
        · cases failed

/-- If `readFile` fails, the file is `TooLarge` or `Unreadable`; with `.nulInside` it fails only for
a path that has a NUL in it. -/
theorem readFile_eq_error {obstacle : Obstacle}
    (failed : readFile disk limit path = .error obstacle) :
    (∃ bound, limit = some bound ∧ obstacle = .tooLarge bound ∧ TooLarge disk limit path) ∨
      Unreadable disk limit path ∧
        ((∃ error, obstacle = .unreadable error ∧
          (error = .nulInside → '\x00' ∈ path.text.toList)) ∨ obstacle = .noText) := by
  rw [readFile] at failed
  cases checked : checkSize disk limit path with
  | error reason =>
      rw [checked] at failed
      cases failed
      -- The limit is checked first, and asks for the size.
      rcases checkSize_eq_error checked with ⟨limited, error, refused, same⟩ | excluded
      · refine .inr ⟨.inl ⟨limited, error, refused⟩, .inl ⟨error, same, ?_⟩⟩
        rintro rfl
        exact Disk.nul_mem_of_read (Disk.read_eq_error_of_size refused)
      · exact .inl excluded
  | ok _ =>
      rw [checked] at failed
      -- Within the limit, the file itself may be unreadable.
      rcases readText_eq_error failed with ⟨error, refused, same⟩ | ⟨bytes, read, broken, same⟩
      · refine .inr ⟨.inr (.inl ⟨error, refused⟩), .inl ⟨error, same, ?_⟩⟩
        rintro rfl
        exact Disk.nul_mem_of_read refused
      · exact .inr ⟨.inr (.inr ⟨bytes, read, broken⟩), .inr same⟩

/-- What `readFile` gives is what `readText` gives. -/
theorem readText_of_readFile (found : readFile disk limit path = .ok content) :
    readText disk path = .ok content := by
  obtain ⟨_, _, read⟩ := exists_of_bind_eq_ok found
  exact read

/-! ## Scanning a text -/

/-- If the tree `Fits content`, `readShell` fails only if the tree is marked `erroneous`. -/
theorem erroneous_of_readShell_eq_error {name : String} {error : ScanError}
    (fits : (parser.tree .bash content).Fits content)
    (failed : readShell parser name content = .error error) :
    (∃ failure, error = .parse failure) ∧ (parser.tree .bash content).label.erroneous := by
  refine ⟨readShell_eq_error fits failed, ?_⟩
  by_contra sound
  obtain ⟨script, read⟩ := Option.isSome_iff_exists.mp (Shell.isSome_readScript fits)
  rw [readShell, Parser.parse, Syntax.checkTree, if_neg sound] at failed
  simp only [read] at failed
  cases failed

/-- Reading a Go source by `readGo` fails only if the tree is marked `erroneous`. -/
theorem erroneous_of_readGo_eq_error {name : String} {error : ScanError}
    (failed : readGo parser name content = .error error) :
    (∃ failure, error = .parse failure) ∧ (parser.tree .go content).label.erroneous := by
  rw [readGo, Parser.parse, Syntax.checkTree] at failed
  by_cases erroneous : (parser.tree .go content).label.erroneous
  · rw [if_pos erroneous] at failed
    cases failed
    exact ⟨⟨_, rfl⟩, erroneous⟩
  · rw [if_neg erroneous] at failed
    cases failed

/-- If a script's tree `Fits content`, `scanContent` fails only if the tree is marked
`erroneous`. -/
theorem scanContent_eq_error {name : String} {error : ScanError}
    (fits : FileKind.ofPath name = .shell → (parser.tree .bash content).Fits content)
    (failed : scanContent parser rules resolvePaths name content = .error error) :
    (∃ failure, error = .parse failure) ∧ ∃ language,
      (FileKind.ofPath name).language? = some language ∧
      (parser.tree language content).label.erroneous := by
  rw [scanContent] at failed
  cases kind : FileKind.ofPath name with
  | makefile =>
      rw [kind] at failed
      cases failed
  | go =>
      rw [kind] at failed
      have problem := erroneous_of_readGo_eq_error (eq_error_of_map_eq_error failed)
      exact ⟨problem.1, .go, rfl, problem.2⟩
  | shell =>
      rw [kind] at failed
      -- Both policies fail only where reading the script does.
      have unread : readShell parser name content = .error error := by
        cases resolvePaths with
        | false => exact eq_error_of_map_eq_error failed
        | true => exact eq_error_of_map_eq_error failed
      have problem := erroneous_of_readShell_eq_error (fits kind) unread
      exact ⟨problem.1, .bash, rfl, problem.2⟩

/-- The events of `pathPolicy` are of the levels `.debug` and `.warning`. -/
theorem level_of_mem_pathPolicy {name : String} {script : Script} {event : Event}
    (told : event ∈ (pathPolicy rules name script).2) :
    event.level = .debug ∨ event.level = .warning := by
  rw [pathPolicy, List.mem_append] at told
  rcases told with detail | warning
  · obtain ⟨entry, _, rfl⟩ := List.mem_map.mp detail
    exact .inl rfl
  · split at warning
    · cases warning
    · obtain ⟨variableName, _, rfl⟩ := List.mem_map.mp warning
      exact .inr rfl

/-- What `scanContent` gives is given by `scanMakefile`, `pathPolicy` or `flagPolicy`. -/
theorem scanContent_eq_ok {name : String} {result : Findings}
    (scanned : scanContent parser rules resolvePaths name content = .ok result) :
    result = (scanMakefile rules name content, []) ∨
    (∃ script, result = pathPolicy rules name script) ∨
      ∃ commands, result = (flagPolicy rules name commands, []) := by
  rw [scanContent] at scanned
  cases kind : FileKind.ofPath name with
  | makefile =>
      rw [kind] at scanned
      exact .inl (Except.ok.inj scanned).symm
  | go =>
      rw [kind] at scanned
      obtain ⟨script, _, same⟩ := exists_of_map_eq_ok scanned
      exact .inr (.inl ⟨script, same.symm⟩)
  | shell =>
      rw [kind] at scanned
      cases resolvePaths with
      | false =>
          obtain ⟨script, _, same⟩ := exists_of_map_eq_ok scanned
          exact .inr (.inr ⟨script.commands, same.symm⟩)
      | true =>
          obtain ⟨script, _, same⟩ := exists_of_map_eq_ok scanned
          exact .inr (.inl ⟨script, same.symm⟩)

/-- The events of `scanContent` are of the levels `.debug` and `.warning`. -/
theorem level_of_mem_scanContent {name : String} {findings : List Finding} {events : List Event}
    (scanned : scanContent parser rules resolvePaths name content = .ok (findings, events))
    {event : Event} (told : event ∈ events) : event.level = .debug ∨ event.level = .warning := by
  rcases scanContent_eq_ok scanned with same | ⟨script, same⟩ | ⟨commands, same⟩
  · cases same
    cases told
  · exact level_of_mem_pathPolicy (by rw [← same]; exact told)
  · cases same
    cases told

/-! ## Endings -/

/-- How the scan of a file ends. -/
inductive Ending where
  /-- The file cannot be read. -/
  | unreadable
  /-- The file is too large. -/
  | tooLarge
  /-- The text of the file does not parse. -/
  | unparsable
  /-- The text of the file is scanned. -/
  | scanned
  deriving DecidableEq, Repr

/-- The levels and the messages of events, without their causes. -/
def entries (events : List Event) : List (Level × String) :=
  events.map fun event => (event.level, event.headline)

/-- The first entry about a file: that it is about to be scanned. -/
def startEntry (path : Path) : Level × String :=
  (.debug, s!"handling {(FileKind.ofPath path.text).name} file: {path.text}")

/-- What an ending says about a scan with `result`: why it ends so, what it finds and what it
tells. -/
def Ending.Holds (parser : Parser) (disk : Disk) (rules : RuleSet) (resolvePaths : Bool)
    (limit : Option Limit) (path : Path) (result : Findings) : Ending → Prop
  | .unreadable =>
      Unreadable disk limit path ∧ result.1 = [] ∧
        entries result.2 = [startEntry path, (.error, s!"Error reading file {path.text}")]
  | .tooLarge =>
      TooLarge disk limit path ∧ result.1 = [] ∧ ∃ bound, limit = some bound ∧
        entries result.2 =
          [startEntry path, (.info, s!"Skipping {path.text}: larger than {bound.text} bytes")]
  | .unparsable =>
      Unparsable parser disk path ∧ result.1 = [] ∧ ∃ failure : Syntax.ParseFailure,
        entries result.2 =
          [startEntry path, (.error, s!"Error parsing file {path.text}: {failure.text}")]
  | .scanned =>
      ∃ content events, readText disk path = .ok content ∧
        scanContent parser rules resolvePaths path.text content = .ok (result.1, events) ∧
        result.2 = startEvent path :: events ∧ ∀ event ∈ result.2, event.level ≠ .error

/-- The level of the entry that says why a file is not scanned. -/
def Ending.alarm? : Ending → Option Level
  | .unreadable => some .error
  | .tooLarge => some .info
  | .unparsable => some .error
  | .scanned => none

/-- The first entry behind the start that is progress or an error. -/
def alarmOf? (events : List Event) : Option Level :=
  ((entries events).tail.map (·.1)).find? fun level => level = .info ∨ level = .error

/-- If an ending `Holds` of a result, `alarmOf?` finds its alarm in the events. -/
theorem Ending.Holds.alarmOf?_eq {result : Findings} {ending : Ending}
    (holds : ending.Holds parser disk rules resolvePaths limit path result) :
    alarmOf? result.2 = ending.alarm? := by
  rw [alarmOf?]
  cases ending with
  | unreadable =>
      obtain ⟨_, _, told⟩ := holds
      rw [told]
      rfl
  | tooLarge =>
      obtain ⟨_, _, bound, _, told⟩ := holds
      rw [told]
      rfl
  | unparsable =>
      obtain ⟨_, _, failure, told⟩ := holds
      rw [told]
      rfl
  | scanned =>
      obtain ⟨content, events, _, scanned, told, _⟩ := holds
      -- Behind the first event, a scan tells nothing above a warning.
      rw [told, entries, List.map_cons, List.tail_cons, Ending.alarm?, List.find?_eq_none]
      intro level member
      obtain ⟨entry, isEntry, rfl⟩ := List.mem_map.mp member
      obtain ⟨event, isEvent, rfl⟩ := List.mem_map.mp isEntry
      rcases level_of_mem_scanContent scanned isEvent with debug | warning
      · simp [debug]
      · simp [warning]

/-- A file that is `Unreadable` is not `Unparsable`. -/
theorem Unreadable.not_unparsable (unreadable : Unreadable disk limit path) :
    ¬ Unparsable parser disk path := by
  rintro ⟨content, _, found, _⟩
  exact unreadable.readText_ne_ok found

/-- Of a result, only one ending `Holds`: they differ in their alarms or in what can be read. -/
theorem Ending.Holds.unique {result : Findings} {first second : Ending}
    (left : first.Holds parser disk rules resolvePaths limit path result)
    (right : second.Holds parser disk rules resolvePaths limit path result) : first = second := by
  have same : first.alarm? = second.alarm? := left.alarmOf?_eq.symm.trans right.alarmOf?_eq
  -- The alarm tells all endings apart but two, and those differ in whether the file has a text.
  cases first with
  | unreadable =>
      cases second with
      | unreadable => rfl
      | unparsable => exact absurd right.1 left.1.not_unparsable
      | tooLarge | scanned => cases same
  | tooLarge =>
      cases second with
      | tooLarge => rfl
      | unreadable | unparsable | scanned => cases same
  | unparsable =>
      cases second with
      | unparsable => rfl
      | unreadable => exact absurd left.1 right.1.not_unparsable
      | tooLarge | scanned => cases same
  | scanned =>
      cases second with
      | scanned => rfl
      | unreadable | tooLarge | unparsable => cases same

/-- If `readFile` fails and there is no NUL in the path, `scanFile` gives a result with an
ending. -/
theorem exists_ending_of_obstacle {obstacle : Obstacle} (noNul : '\x00' ∉ path.text.toList)
    (failed : readFile disk limit path = .error obstacle) :
    ∃ result, scanFile parser disk rules resolvePaths limit path = .ok result ∧
      ∃ ending : Ending, ending.Holds parser disk rules resolvePaths limit path result := by
  rw [scanFile, failed]
  rcases readFile_eq_error failed with ⟨bound, limited, rfl, tooLarge⟩ |
    ⟨unreadable, ⟨error, rfl, nul⟩ | rfl⟩
  · exact ⟨_, rfl, .tooLarge, tooLarge, rfl, bound, limited, rfl⟩
  · refine ⟨([], [startEvent path, (Obstacle.unreadable error).event path.text]), ?_,
      .unreadable, unreadable, rfl, rfl⟩
    cases error with
    | nulInside => exact absurd (nul rfl) noNul
    | _ => rfl
  · exact ⟨_, rfl, .unreadable, unreadable, rfl, rfl⟩

/-- If `readFile` gives the `content` and a script's tree fits it, `scanFile` gives a result with an
ending. -/
theorem exists_ending_of_readFile
    (fits : FileKind.ofPath path.text = .shell → (parser.tree .bash content).Fits content)
    (read : readFile disk limit path = .ok content) :
    ∃ result, scanFile parser disk rules resolvePaths limit path = .ok result ∧
      ∃ ending : Ending, ending.Holds parser disk rules resolvePaths limit path result := by
  have text := readText_of_readFile read
  rw [scanFile, read]
  dsimp only
  cases scanned : scanContent parser rules resolvePaths path.text content with
  | error error =>
      -- If the tree fits, only a syntax error stops the scan.
      obtain ⟨⟨failure, rfl⟩, language, isLanguage, erroneous⟩ := scanContent_eq_error fits scanned
      exact ⟨_, rfl, .unparsable, ⟨content, language, text, isLanguage, erroneous⟩, rfl,
        failure, rfl⟩
  | ok result =>
      refine ⟨_, rfl, .scanned, content, result.2, text, scanned, rfl, ?_⟩
      intro event told
      rcases List.mem_cons.mp told with rfl | told
      · exact Level.noConfusion
      · rcases level_of_mem_scanContent scanned told with debug | warning
        · rw [debug]
          exact Level.noConfusion
        · rw [warning]
          exact Level.noConfusion

/-! ## A script on a disk -/

/-- A disk with the script `wrappedText`. -/
def wrappedDisk : Disk :=
  .ofFile "a.sh" wrappedText.toByteArray

/-! ## The ending of a scan -/

/-- If there is no NUL in the path and the tree of a script `Fits content`, `scanFile` gives a
result, and exactly one `Ending` has `Holds` of it: the file is unreadable, too large, unparsable or
scanned. -/
theorem existsUnique_ending (parser : Parser) (disk : Disk) (rules : RuleSet) (resolvePaths : Bool)
    (limit : Option Limit) (path : Path) (noNul : '\x00' ∉ path.text.toList)
    (fits : ∀ content, readText disk path = .ok content → FileKind.ofPath path.text = .shell →
      (parser.tree .bash content).Fits content) :
    ∃ result, scanFile parser disk rules resolvePaths limit path = .ok result ∧
      ∃! ending : Ending, ending.Holds parser disk rules resolvePaths limit path result := by
  have atLeastOne : ∃ result, scanFile parser disk rules resolvePaths limit path = .ok result ∧
      ∃ ending : Ending, ending.Holds parser disk rules resolvePaths limit path result := by
    cases read : readFile disk limit path with
    | error obstacle => exact exists_ending_of_obstacle noNul read
    | ok content => exact exists_ending_of_readFile (fits content (readText_of_readFile read)) read
  obtain ⟨result, gives, ending, holds⟩ := atLeastOne
  exact ⟨result, gives, ending, holds, fun other otherHolds => otherHolds.unique holds⟩

/-- The scan of `wrappedText` gives a result of which exactly one `Ending` has `Holds`. -/
theorem existsUnique_ending_wrapped :
    '\x00' ∉ (Path.ofText "a.sh").text.toList ∧
    readText wrappedDisk (Path.ofText "a.sh") = .ok wrappedText ∧ wrappedTree.Fits wrappedText ∧
    ∃ result, scanFile ⟨fun _ _ => wrappedTree⟩ wrappedDisk .standard true (some (.bytes 100))
        (Path.ofText "a.sh") = .ok result ∧
      ∃! ending : Ending, ending.Holds ⟨fun _ _ => wrappedTree⟩ wrappedDisk .standard true
        (some (.bytes 100)) (Path.ofText "a.sh") result := by
  have noNul : '\x00' ∉ (Path.ofText "a.sh").text.toList := by decide
  have found : wrappedDisk.find true (Path.ofText "a.sh") =
      .ok ⟨["a.sh"], some (.file wrappedText.toByteArray), Disk.maxLinks⟩ := by
    rw [show Path.ofText "a.sh" = ⟨"", ["a.sh"]⟩ by decide]
    exact Disk.find_ofFile_self (by decide) wrappedText.toByteArray true
  have text : readText wrappedDisk (Path.ofText "a.sh") = .ok wrappedText := by
    rw [readText, Disk.read, found]
    exact eq_ok_of_toOption_eq_some (by decide)
  have fits : wrappedTree.Fits wrappedText := by decide
  refine ⟨noNul, text, fits, existsUnique_ending _ _ _ _ _ _ noNul ?_⟩
  intro content found _
  rw [text] at found
  cases found
  exact fits

end Scan

end Footgun
