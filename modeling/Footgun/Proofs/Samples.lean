import Footgun.Cli.Scan
import Footgun.Proofs.Failing

/-! # Trees and plans to run on

The inputs that the closed statements of several modules share. Main definitions:

* `Scan.branch` — a named node, from which trees are written down;
* `Scan.wrappedText`, `Scan.wrappedTree` — a script with a wrapped command, and its tree;
* `Cli.standardPlan` — the plan of a request that asks for nothing special.

The main statements are `Config.load_of_missing` and `Cli.make_standard`. -/

namespace Footgun

open Syntax (Tree)

namespace Scan

/-- A node of a kind that covers `start` to `stop`, stands in `field` and is no error. -/
def branch (kind : String) (start stop : Nat) (field : String) (children : List Tree) : Tree :=
  .node ⟨kind, start, stop, true, false, false, field⟩ children

/-- A script with a character of two bytes and a wrapped command on its second line. -/
def wrappedText : String :=
  "echo é\nsudo rm -rf /\n"

/-- The tree of `wrappedText`. -/
def wrappedTree : Tree :=
  branch "program" 0 22 "" [
    branch "command" 0 7 "" [
      branch "command_name" 0 4 "name" [branch "word" 0 4 "" []],
      branch "word" 5 7 "argument" []],
    branch "command" 8 21 "" [
      branch "command_name" 8 12 "name" [branch "word" 8 12 "" []],
      branch "word" 13 15 "argument" [], branch "word" 16 19 "argument" [],
      branch "word" 20 21 "argument" []]]

end Scan

/-- The function `Config.load` without a file and without variables gives `.standard` and says
nothing. -/
theorem Config.load_of_missing {disk : Disk} {root : String}
    (missing : disk.probe ((Path.ofText root).child fileName) = .ok none) :
    load disk [] root = .ok (.standard, []) := by
  rw [load, loadFile, missing]
  rfl

namespace Cli

/-- A Makefile with a hazardous command. -/
def hazardousText : String :=
  "all:\n\trm -rf /\n"

/-- The plan without a configuration file, for a request that gives neither endings nor
directories. -/
def standardPlan : Plan where
  walker := ⟨⟨[".sh", "Makefile"], ["node_modules", "linters"]⟩, false, maxLevels⟩
  suffixesBroken := false
  rules := ⟨⟨"rm", ["--recursive --force", "-fr", "-rf"], "rm -rf"⟩, ["/", "/*"]⟩
  resolvePaths := false
  limit := .bytes 2097152

/-- The plan of `Plan.make .standard` is `standardPlan`, whatever the `targets`, the `output` and
the `root` are. -/
theorem make_standard (targets : List String) (output : Option String) (root : String) :
    Plan.make .standard ⟨targets, none, none, none, output, root⟩ = .ok standardPlan := by
  have rules : ((Definition.ofJson (Config.standard.groupJson "rules")).map (·.ruleSet)).toOption =
      some standardPlan.rules := by decide
  obtain ⟨definition, read, same⟩ := exists_of_map_eq_ok (eq_ok_of_toOption_eq_some rules)
  have suffixes : leadingTexts (Config.standard.list .allowExtensions) =
      ([".sh", "Makefile"], false) := by decide
  have names : leadingTexts (Config.standard.list .excludeDirs) =
      (["node_modules", "linters"], false) := by decide
  have excluded : excludedNames .standard ⟨targets, none, none, none, output, root⟩ =
      .ok ["node_modules", "linters"] := by
    rw [excludedNames, names]
  have filter : Filter.ofLists [".sh", "Makefile"] ["node_modules", "linters"] =
      standardPlan.walker.filter := by decide
  simp only [Plan.make, read, allowedSuffixes, Option.map_none, Option.getD_none, suffixes,
    excluded, filter, same, bind, Except.bind, pure, Except.pure]
  rfl

end Cli

end Footgun
