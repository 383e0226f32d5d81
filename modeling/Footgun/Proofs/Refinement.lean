import Footgun.Proofs.Decoding
import Footgun.Scan.Content

/-! # The path policy refines the flag policy

Both policies judge the commands of the same script. The path policy asks for everything that the
flag policy asks for, and for an unsafe path besides; so it reports some of the same commands, in
the same order, and says why. Main definitions:

* `Finding.site` — what a finding says apart from its message.

The main statement is `scanShellPaths_refines_scanShellFlags`. -/

namespace Footgun

/-- The file, the line, the column and the command of a finding. -/
def Finding.site (finding : Finding) : String × Int × Int × String :=
  (finding.path, finding.position.line, finding.position.column, finding.command)

/-- The text of a reason is not empty. -/
theorem HazardReason.text_ne_empty (reason : HazardReason) : reason.text ≠ "" := by
  cases reason <;> decide

namespace Scan

open Syntax (Parser)

/-! ## Policies -/

/-- A command with a hazard by `hazardOf?` has a flag by `flagOf?`. -/
theorem isSome_flagOf?_of_hazardOf? {rules : RuleSet} {table : Bindings} {command : Command}
    (hazardous : (hazardOf? rules table command).isSome) :
    (flagOf? rules.command command).isSome := by
  rw [hazardOf?] at hazardous
  exact Option.isSome_of_isSome_bind hazardous

/-- The commands of `hazards` are those with a hazard by `hazardOf?`, in order. -/
theorem map_fst_hazards (rules : RuleSet) (script : Script) :
    (hazards rules script).map (·.1) =
      script.commands.filter fun command => (hazardOf? rules script.bindings command).isSome := by
  rw [hazards]
  induction script.commands with
  | nil => rfl
  | cons command rest ih =>
      cases found : hazardOf? rules script.bindings command with
      | none => rw [List.filterMap_cons_none (by simp [found]), ih]; simp [found]
      | some hazard =>
          rw [List.filterMap_cons_some (b := (command, hazard)) (by simp [found]),
            List.map_cons, ih]
          simp [found]

/-- The commands of `hazards` are, in order, some of those with a flag by `flagOf?`. -/
theorem hazards_sublist_flagged (rules : RuleSet) (script : Script) :
    ((hazards rules script).map (·.1)).Sublist
      (script.commands.filter fun command => (flagOf? rules.command command).isSome) := by
  have both : script.commands.filter (fun command =>
      (hazardOf? rules script.bindings command).isSome) =
      (script.commands.filter fun command => (flagOf? rules.command command).isSome).filter
        fun command => (hazardOf? rules script.bindings command).isSome := by
    rw [List.filter_filter]
    refine List.filter_congr fun command _ => ?_
    cases hazardous : (hazardOf? rules script.bindings command).isSome with
    | false => rfl
    | true => rw [isSome_flagOf?_of_hazardOf? hazardous, Bool.and_self]
  rw [map_fst_hazards, both]
  exact List.filter_sublist

/-- The sites that `pathPolicy` reports are, in order, some of those that `flagPolicy` reports. -/
theorem sites_pathPolicy_sublist (rules : RuleSet) (path : String) (script : Script) :
    ((pathPolicy rules path script).1.map Finding.site).Sublist
      ((flagPolicy rules path script.commands).map Finding.site) := by
  have sites := (hazards_sublist_flagged rules script).map
    fun command => (path, command.position.line, command.position.column, rules.command.label)
  rw [List.map_map] at sites
  rw [pathPolicy, flagPolicy, List.map_map, List.map_map]
  exact sites

/-- A finding of `pathPolicy` has a message. -/
theorem message_ne_empty_of_mem_pathPolicy {rules : RuleSet} {path : String} {script : Script}
    {finding : Finding} (member : finding ∈ (pathPolicy rules path script).1) :
    finding.message ≠ "" := by
  rw [pathPolicy] at member
  obtain ⟨entry, _, rfl⟩ := List.mem_map.mp member
  exact entry.2.reason.text_ne_empty

/-- A finding of `flagPolicy` has no message. -/
theorem message_eq_empty_of_mem_flagPolicy {rules : RuleSet} {path : String}
    {commands : List Command} {finding : Finding}
    (member : finding ∈ flagPolicy rules path commands) : finding.message = "" := by
  rw [flagPolicy] at member
  obtain ⟨command, _, rfl⟩ := List.mem_map.mp member
  rfl

/-! ## Scans -/

/-- If the tree `Fits content`, `readShell` fails only with a syntax error. -/
theorem readShell_eq_error {parser : Parser} {path content : String} {error : ScanError}
    (fits : (parser.tree .bash content).Fits content)
    (failed : readShell parser path content = .error error) :
    ∃ failure, error = .parse failure := by
  rw [readShell] at failed
  cases parsed : parser.parse .bash path content with
  | error failure =>
      rw [parsed] at failed
      cases failed
      exact ⟨failure, rfl⟩
  | ok checked =>
      -- What is parsed is the tree of the content, from which a script can be read if it fits.
      have whole : checked = ⟨Syntax.Source.ofText content, parser.tree .bash content⟩ := by
        rw [Parser.parse, Syntax.checkTree] at parsed
        split at parsed
        · cases parsed
        · cases parsed
          rfl
      obtain ⟨script, read⟩ := Option.isSome_iff_exists.mp (Shell.isSome_readScript fits)
      rw [parsed, whole] at failed
      simp [read] at failed

/-- The scan `scanShellPaths` refines `scanShellFlags`.

(1) Either both fail with the same error, a syntax error if the tree `Fits content`.

(2) Or the sites found by `scanShellPaths` are, in order and with repetitions, some of those found
by `scanShellFlags`. The former findings all have a message, and the latter none. -/
theorem scanShellPaths_refines_scanShellFlags (parser : Parser) (rules : RuleSet)
    (path content : String) :
    (∃ error, scanShellFlags parser rules path content = .error error ∧
      scanShellPaths parser rules path content = .error error ∧
      ((parser.tree .bash content).Fits content → ∃ failure, error = .parse failure)) ∨
    (∃ flagged found events, scanShellFlags parser rules path content = .ok (flagged, []) ∧
      scanShellPaths parser rules path content = .ok (found, events) ∧
      (found.map Finding.site).Sublist (flagged.map Finding.site) ∧
      (∀ finding ∈ found, finding.message ≠ "") ∧ ∀ finding ∈ flagged, finding.message = "") := by
  rw [scanShellFlags, scanShellPaths]
  cases read : readShell parser path content with
  | error error => exact .inl ⟨error, rfl, rfl, fun fits => readShell_eq_error fits read⟩
  | ok script =>
      refine .inr ⟨flagPolicy rules path script.commands, (pathPolicy rules path script).1,
        (pathPolicy rules path script).2, rfl, rfl,
        sites_pathPolicy_sublist rules path script, ?_, ?_⟩
      · exact fun finding => message_ne_empty_of_mem_pathPolicy
      · exact fun finding => message_eq_empty_of_mem_flagPolicy

end Scan

end Footgun
