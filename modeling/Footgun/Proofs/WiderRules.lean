import Footgun.Proofs.Refinement
import Footgun.Proofs.Samples
import Mathlib.Data.List.Basic

/-! # Wider rules

A rule set is widened by more unsafe paths or by more hazardous flags. Both searches stop at their
first hit, so a wider list may hit another word; but it never hits none where the smaller one hits
some. Main definitions:

* `RuleSet.WidensPaths`, `RuleSet.WidensFlags` — a rule set differs from another only in one longer
  list;
* `Scan.Covers` — a scan reports everything that another one reports.

The main statement is `Scan.covers_of_wider`. The two lists do not mix: under the path policy a flag
that is found earlier leaves other words behind it, which are judged by the paths. -/

namespace Footgun

open Syntax (Parser Tree)

/-- From `texts ⊆ more` follows that `more` contains what `texts` contains. -/
theorem contains_of_subset {texts more : List String} (subset : texts ⊆ more) {text : String}
    (held : texts.contains text) : more.contains text :=
  List.contains_iff_mem.mpr (subset (List.contains_iff_mem.mp held))

/-! ## Flags -/

/-- From `flags ⊆ more` follows that `matchFlagsFrom` finds one of `more` if it finds one of
`flags`, perhaps earlier. -/
theorem isSome_matchFlagsFrom_of_subset {flags more : List String} (subset : flags ⊆ more)
    (index : Nat) (run : String) {words : List String}
    (found : (matchFlagsFrom flags index run words).isSome) :
    (matchFlagsFrom more index run words).isSome := by
  induction words generalizing index run with
  | nil => cases found
  | cons word rest ih =>
      rw [matchFlagsFrom] at found ⊢
      by_cases empty : word = ""
      · rw [if_pos empty] at found ⊢
        exact ih (index + 1) run found
      · rw [if_neg empty] at found ⊢
        by_cases here : more.contains word
        · rw [if_pos here]
          rfl
        · by_cases joined : more.contains (extendRun run word)
          · rw [if_neg here, if_pos joined]
            rfl
          · -- Neither list holds the word or the run, and the run goes on without looking at the
            -- flags.
            rw [if_neg (mt (contains_of_subset subset) here),
              if_neg (mt (contains_of_subset subset) joined)] at found
            rw [if_neg here, if_neg joined]
            exact ih (index + 1) _ found

/-- From `flags ⊆ more` follows that `matchFlags` finds one of `more` if it finds one of `flags`. -/
theorem isSome_matchFlags_of_subset {flags more : List String} (subset : flags ⊆ more)
    {words : List String} (found : (matchFlags words flags).isSome) :
    (matchFlags words more).isSome :=
  isSome_matchFlagsFrom_of_subset subset 0 "" found

/-! ## Paths -/

variable {table : Bindings} {paths more : List String}

/-- From `paths ⊆ more` follows that `classifyExpansion` has a verdict for `more` if it has one for
`paths`. -/
theorem isSome_classifyExpansion_of_subset (subset : paths ⊆ more) {word : String}
    (found : (classifyExpansion table paths word).isSome) :
    (classifyExpansion table more word).isSome := by
  unfold classifyExpansion at found ⊢
  dsimp only at found ⊢
  cases value : table.get? (String.ofList (splitVariable word.toList).1) with
  | none =>
      simp only [value] at found ⊢
      by_cases rest : paths.contains (String.ofList (splitVariable word.toList).2)
      · rw [if_pos (contains_of_subset subset rest)]
        rfl
      · rw [if_neg rest] at found
        cases found
  | some text =>
      simp only [value] at found ⊢
      -- With more paths, the value alone may be unsafe already.
      by_cases alone : more.contains (Text.trim text)
      · rw [if_pos alone]
        rfl
      · rw [if_neg (mt (contains_of_subset subset) alone)] at found
        rw [if_neg alone]
        by_cases whole :
            paths.contains (Text.trim text ++ String.ofList (splitVariable word.toList).2)
        · rw [if_pos (contains_of_subset subset whole)]
          rfl
        · rw [if_neg whole] at found
          cases found

/-- From `paths ⊆ more` follows that `classifyPaths` has a verdict for `more` if it has one for
`paths`. The induction is on `words`. -/
theorem isSome_classifyPaths_of_subset (subset : paths ⊆ more) {words : List String}
    (found : (classifyPaths table paths words).isSome) :
    (classifyPaths table more words).isSome := by
  induction words with
  | nil => cases found
  | cons word rest ih =>
      rw [classifyPaths] at found ⊢
      -- The first expansion decides for both lists, and it is the same word.
      by_cases expansion : hasExpansion (Text.trim word).toList
      · rw [if_pos expansion] at found ⊢
        exact isSome_classifyExpansion_of_subset subset found
      · rw [if_neg expansion] at found ⊢
        by_cases here : more.contains (Text.trim word)
        · rw [if_pos here]
          rfl
        · rw [if_neg (mt (contains_of_subset subset) here)] at found
          rw [if_neg here]
          exact ih found

/-! ## Rule sets -/

/-- The rules `wider` differ from `rules` only in that they may have more unsafe paths. -/
structure RuleSet.WidensPaths (rules wider : RuleSet) : Prop where
  /-- The hazardous command is the same. -/
  command : wider.command = rules.command
  /-- No unsafe path is left out. -/
  unsafePaths : rules.unsafePaths ⊆ wider.unsafePaths

/-- The rules `wider` differ from `rules` only in that they may have more hazardous flags. -/
structure RuleSet.WidensFlags (rules wider : RuleSet) : Prop where
  /-- The name of the program is the same. -/
  name : wider.command.name = rules.command.name
  /-- The label is the same. -/
  label : wider.command.label = rules.command.label
  /-- No hazardous flag is left out. -/
  flags : rules.command.flags ⊆ wider.command.flags
  /-- The unsafe paths are the same. -/
  unsafePaths : wider.unsafePaths = rules.unsafePaths

namespace Makefile

open Text (Placed)

variable {rule wider : Rule}

/-- A word that `rule` hits is hit by a `wider` one. -/
theorem isSome_hitAt?_of_subset (name : wider.name = rule.name) (subset : rule.flags ⊆ wider.flags)
    {word : Placed} {following : List Placed} (hit : (hitAt? rule word following).isSome) :
    (hitAt? wider word following).isSome := by
  unfold hitAt? at hit ⊢
  dsimp only at hit ⊢
  rw [name]
  by_cases named : Text.lowercase (String.ofList (word.text.dropWhile isRecipePrefix)) =
      Text.lowercase rule.name
  · rw [if_pos named, Option.isSome_map] at hit ⊢
    exact isSome_matchFlags_of_subset subset hit
  · rw [if_neg named] at hit
    cases hit

/-- If `rule` hits one of the words, a `wider` one does, perhaps at an earlier word. -/
theorem isSome_firstHit?_of_subset (name : wider.name = rule.name)
    (subset : rule.flags ⊆ wider.flags) {words : List Placed}
    (hit : (firstHit? rule words).isSome) : (firstHit? wider words).isSome := by
  induction words with
  | nil => cases hit
  | cons word following ih =>
      rw [firstHit?, Option.isSome_or, Bool.or_eq_true] at hit ⊢
      rcases hit with here | later
      · exact .inl (isSome_hitAt?_of_subset name subset here)
      · exact .inr (ih later)

/-- A line that `rule` hits is hit by a `wider` one. -/
theorem isSome_hazardIn_of_subset (name : wider.name = rule.name)
    (subset : rule.flags ⊆ wider.flags) {line : List Char} (hit : (hazardIn rule line).isSome) :
    (hazardIn wider line).isSome := by
  unfold hazardIn at hit ⊢
  by_cases comment : isComment line
  · rw [if_pos comment] at hit
    cases hit
  · rw [if_neg comment] at hit ⊢
    exact isSome_firstHit?_of_subset name subset hit

end Makefile

namespace Scan

variable {rules wider : RuleSet}

/-! ## Policies -/

/-- The positions that `pathPolicy` reports are those of the commands with a hazard. -/
theorem positions_pathPolicy (rules : RuleSet) (path : String) (script : Script) :
    (pathPolicy rules path script).1.map (·.position) =
      (script.commands.filter fun command =>
        (hazardOf? rules script.bindings command).isSome).map (·.position) := by
  rw [← map_fst_hazards, pathPolicy, List.map_map, List.map_map]
  rfl

/-- The positions that `flagPolicy` reports are those of the commands with a flag. -/
theorem positions_flagPolicy (rules : RuleSet) (path : String) (commands : List Command) :
    (flagPolicy rules path commands).map (·.position) =
      (commands.filter fun command => (flagOf? rules.command command).isSome).map (·.position) := by
  rw [flagPolicy, List.map_map]
  rfl

/-- If `rules.WidensPaths wider`, `wider` reports by `pathPolicy` every position that `rules`
reports. -/
theorem positions_pathPolicy_sublist (widens : rules.WidensPaths wider) (path : String)
    (script : Script) :
    ((pathPolicy rules path script).1.map (·.position)).Sublist
      ((pathPolicy wider path script).1.map (·.position)) := by
  rw [positions_pathPolicy, positions_pathPolicy]
  refine (List.monotone_filter_right _ fun command hazardous => ?_).map _
  rw [hazardOf?] at hazardous ⊢
  rw [widens.command]
  -- The flag is found without the paths, so that both searches for a path start behind it.
  cases flagged : flagOf? rules.command command with
  | none =>
      rw [flagged] at hazardous
      cases hazardous
  | some found =>
      rw [flagged] at hazardous
      exact isSome_classifyPaths_of_subset widens.unsafePaths hazardous

/-- If `rules.WidensFlags wider`, `wider` reports by `flagPolicy` every position that `rules`
reports. -/
theorem positions_flagPolicy_sublist (widens : rules.WidensFlags wider) (path : String)
    (commands : List Command) :
    ((flagPolicy rules path commands).map (·.position)).Sublist
      ((flagPolicy wider path commands).map (·.position)) := by
  rw [positions_flagPolicy, positions_flagPolicy]
  refine (List.monotone_filter_right _ fun command flagged => ?_).map _
  unfold flagOf? at flagged ⊢
  have named : wider.command.names command.name = rules.command.names command.name := by
    rw [Rule.names, Rule.names, widens.name]
  rw [named]
  by_cases about : rules.command.names command.name
  · rw [if_pos about] at flagged ⊢
    exact isSome_matchFlags_of_subset widens.flags flagged
  · rw [if_neg about] at flagged
    cases flagged

/-- If `rules.WidensFlags wider`, `wider` reports by `scanLines` every line that `rules` reports. -/
theorem lines_scanLines_sublist (widens : rules.WidensFlags wider) (path : String) (number : Nat)
    (lines : List (List Char)) :
    ((scanLines rules.command path number lines).map (·.position.line)).Sublist
      ((scanLines wider.command path number lines).map (·.position.line)) := by
  induction lines generalizing number with
  | nil => exact .slnil
  | cons line rest ih =>
      rw [scanLines, scanLines, List.map_append, List.map_append]
      refine List.Sublist.append ?_ (ih (number + 1))
      cases hit : Makefile.hazardIn rules.command line with
      | none => exact List.nil_sublist _
      | some first =>
          -- The wider rule hits the line, too, and a finding is on the line of its hit.
          have hits : (Makefile.hazardIn rules.command line).isSome := by simp [hit]
          obtain ⟨other, found⟩ := Option.isSome_iff_exists.mp
            (Makefile.isSome_hazardIn_of_subset widens.name widens.flags hits)
          simp [found]

/-! ## Scans -/

/-- The `scan` reports everything that the `other` one reports: both fail alike, or the positions
that the other one reports are, in order and with repetitions, some of those that it reports. -/
def Covers (other scan : Except ScanError Findings) : Prop :=
  (∃ error, other = .error error ∧ scan = .error error) ∨
    ∃ few many, other = .ok few ∧ scan = .ok many ∧
      (few.1.map (·.position)).Sublist (many.1.map (·.position))

/-- If `many` reports every position that `few` reports, its scan `Covers` that of `few`. -/
theorem covers_map {read : Except ScanError Script} {few many : Script → Findings}
    (places : ∀ script,
      ((few script).1.map (·.position)).Sublist ((many script).1.map (·.position))) :
    Covers (read.map few) (read.map many) := by
  cases read with
  | error error => exact .inl ⟨error, rfl, rfl⟩
  | ok script => exact .inr ⟨few script, many script, rfl, rfl, places script⟩

/-! ## A removal of two directories -/

/-- A script that removes two directories. -/
def removalText : String :=
  "rm -rf -v /srv /\n"

/-- The tree of `removalText`. -/
def removalTree : Tree :=
  branch "program" 0 17 "" [
    branch "command" 0 16 "" [
      branch "command_name" 0 2 "name" [branch "word" 0 2 "" []],
      branch "word" 3 6 "argument" [], branch "word" 7 9 "argument" [],
      branch "word" 10 14 "argument" [], branch "word" 15 16 "argument" []]]

/-- The standard rules with an unsafe path more. -/
def serverRules : RuleSet :=
  ⟨Rule.standard, ["/srv", "/", "/*"]⟩

/-- The standard rules with a hazardous flag more. -/
def verboseRules : RuleSet :=
  ⟨⟨"rm", ["-v", "-rf", "-fr", "--recursive --force"], "rm -rf"⟩, ["/", "/*"]⟩

/-! ## What wider rules report -/

/-- Widening one of the lists hides nothing where that list acts alone.

(1) If `rules.WidensPaths wider`, the scans `scanShellPaths` and `scanGo` by `wider` have `Covers`
over those by `rules`: every position is reported again.

(2) If `rules.WidensFlags wider`, the same holds of `scanShellFlags`, and `scanMakefile` reports
every line again. -/
theorem covers_of_wider (parser : Parser) (rules wider : RuleSet) (path content : String) :
    (rules.WidensPaths wider →
      Covers (scanShellPaths parser rules path content) (scanShellPaths parser wider path content) ∧
      Covers (scanGo parser rules path content) (scanGo parser wider path content)) ∧
    (rules.WidensFlags wider →
      Covers (scanShellFlags parser rules path content) (scanShellFlags parser wider path content) ∧
      ((scanMakefile rules path content).map (·.position.line)).Sublist
        ((scanMakefile wider path content).map (·.position.line))) := by
  constructor
  · intro widens
    have places := positions_pathPolicy_sublist widens path
    exact ⟨covers_map places, covers_map places⟩
  · intro widens
    have places := fun script : Script => positions_flagPolicy_sublist widens path script.commands
    exact ⟨covers_map places, lines_scanLines_sublist widens path 1 (Text.lines content)⟩

/-- The removal of two directories in `removalText` is still reported with the other unsafe path of
`serverRules`, and with the other flag of `verboseRules`, although the wider lists hit other
words. -/
theorem covers_of_wider_removal :
    RuleSet.standard.WidensPaths serverRules ∧ RuleSet.standard.WidensFlags verboseRules ∧
    (∃ events, scanShellPaths ⟨fun _ _ => removalTree⟩ .standard "a.sh" removalText =
      .ok ([⟨"a.sh", ⟨1, 1⟩, "rm -rf", HazardReason.unsafePath.text⟩], events)) ∧
    Covers (scanShellPaths ⟨fun _ _ => removalTree⟩ .standard "a.sh" removalText)
      (scanShellPaths ⟨fun _ _ => removalTree⟩ serverRules "a.sh" removalText) ∧
    Covers (scanShellFlags ⟨fun _ _ => removalTree⟩ .standard "a.sh" removalText)
      (scanShellFlags ⟨fun _ _ => removalTree⟩ verboseRules "a.sh" removalText) ∧
    (scanMakefile .standard "Makefile" removalText).map (·.position.line) = [1] ∧
    ((scanMakefile .standard "Makefile" removalText).map (·.position.line)).Sublist
      ((scanMakefile verboseRules "Makefile" removalText).map (·.position.line)) := by
  have paths : RuleSet.standard.WidensPaths serverRules := ⟨rfl, by decide⟩
  have flags : RuleSet.standard.WidensFlags verboseRules := ⟨rfl, rfl, by decide, rfl⟩
  have script := covers_of_wider ⟨fun _ _ => removalTree⟩ .standard serverRules "a.sh" removalText
  have verbose := covers_of_wider ⟨fun _ _ => removalTree⟩ .standard verboseRules "a.sh" removalText
  have recipe :=
    covers_of_wider ⟨fun _ _ => removalTree⟩ .standard verboseRules "Makefile" removalText
  refine ⟨paths, flags, ⟨[.hazard "a.sh" ⟨.unsafePath, "/", none⟩], ?_⟩, (script.1 paths).1,
    (verbose.2 flags).1, by decide, (recipe.2 flags).2⟩
  exact eq_ok_of_toOption_eq_some (by decide +kernel)

end Scan

end Footgun
