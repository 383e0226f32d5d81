import Footgun.Go.Assignment
import Footgun.Go.Call
import Footgun.Makefile
import Footgun.Scan.Policy
import Footgun.Text.Lines

/-! # Scanning a text

`scanContent` scans the text of a file according to its kind: Makefiles line by line, Go sources by
the path policy, shell scripts by the flag policy or, if paths are resolved, by the path policy. -/

namespace Footgun.Scan

open Journal (Event)
open Syntax (Parser ParseFailure)

/-- Why a text cannot be scanned. -/
inductive ScanError where
  /-- It does not parse. -/
  | parse (failure : ParseFailure)
  /-- A node of its tree cuts a character in two. -/
  | splitCharacter
  deriving DecidableEq, Repr

/-- What a scan finds, and what it has to tell. -/
abbrev Findings :=
  List Finding × List Event

/-- The commands and bindings of a shell script. -/
def readShell (parser : Parser) (path content : String) : Except ScanError Script :=
  match parser.parse .bash path content with
  | .error failure => .error (.parse failure)
  | .ok parsed =>
    match Shell.readScript parsed.source parsed.tree with
    | none => .error .splitCharacter
    | some script => .ok script

/-- The commands and bindings of a Go source. -/
def readGo (parser : Parser) (path content : String) : Except ScanError Script :=
  match parser.parse .go path content with
  | .error failure => .error (.parse failure)
  | .ok parsed =>
    .ok ⟨Go.readCalls parsed.source parsed.tree, Go.trackAssignments parsed.source parsed.tree⟩

/-- Scans a shell script by the flag policy. -/
def scanShellFlags (parser : Parser) (rules : RuleSet) (path content : String) :
    Except ScanError Findings :=
  (readShell parser path content).map fun script => (flagPolicy rules path script.commands, [])

/-- Scans a shell script by the path policy. -/
def scanShellPaths (parser : Parser) (rules : RuleSet) (path content : String) :
    Except ScanError Findings :=
  (readShell parser path content).map (pathPolicy rules path)

/-- Scans a Go source by the path policy. -/
def scanGo (parser : Parser) (rules : RuleSet) (path content : String) :
    Except ScanError Findings :=
  (readGo parser path content).map (pathPolicy rules path)

/-- The findings in the lines of a Makefile from a line number on. -/
def scanLines (rule : Rule) (path : String) (number : Nat) : List (List Char) → List Finding
  | [] => []
  | line :: rest =>
    let here := (Makefile.hazardIn rule line).toList.map fun hit =>
      ⟨path, ⟨number, hit.column⟩, rule.name ++ " " ++ hit.flag, ""⟩
    here ++ scanLines rule path (number + 1) rest

/-- Scans a Makefile. -/
def scanMakefile (rules : RuleSet) (path content : String) : List Finding :=
  scanLines rules.command path 1 (Text.lines content)

/-- Scans a text according to the kind of its file. -/
def scanContent (parser : Parser) (rules : RuleSet) (resolvePaths : Bool) (path content : String) :
    Except ScanError Findings :=
  match FileKind.ofPath path with
  | .makefile => .ok (scanMakefile rules path content, [])
  | .go => scanGo parser rules path content
  | .shell =>
    if resolvePaths then scanShellPaths parser rules path content
    else scanShellFlags parser rules path content

end Footgun.Scan
