import Footgun.Disk.Basic
import Footgun.Text.Quoted
import Footgun.Text.Similarity

/-! # Command lines

A command line is read into a `Request`. Options may stand before, between and behind the other
arguments, the last of repeated options counts, and `--` ends the options. Main definitions:

* `splitArguments` — the options and the other arguments of a command;
* `readRequest` — what a command line asks for, or what is wrong with it. -/

namespace Footgun.Cli

/-! ## What can be wrong -/

/-- What is wrong with a command line. -/
inductive UsageError where
  /-- There is no command. -/
  | commandMissing
  /-- There is no command of this name; the names of commands that are much like it. -/
  | noSuchCommand (name : String) (similar : List String)
  /-- There is no option of this name; the names of options that are much like it. -/
  | noSuchOption (name : String) (similar : List String)
  /-- An option stands last and needs a value. -/
  | valueMissing (option : String)
  /-- An option has a value and takes none. -/
  | valueGiven (option : String)
  /-- A file is asked for and a directory is given. -/
  | directoryGiven (option path : String)
  /-- There are no targets. -/
  | targetsMissing
  /-- There are arguments that nothing is done with. -/
  | extraArguments (arguments : List String)
  /-- The path of the report holds a NUL and cannot be looked up. -/
  | unusablePath
  deriving DecidableEq, Repr

/-- The question whether one of some names was meant, if there are any. -/
def suggestion (names : List String) : String :=
  match names with
  | [] => ""
  | [name] => s!" Did you mean {Text.quoted name}?"
  | _ => " (Did you mean one of: " ++ ", ".intercalate (names.map Text.quoted) ++ "?)"

/-- What is wrong, in words. -/
def UsageError.message : UsageError → String
  | commandMissing => "Missing command."
  | noSuchCommand name similar => s!"No such command {Text.quoted name}.{suggestion similar}"
  | noSuchOption name similar => s!"No such option {Text.quoted name}.{suggestion similar}"
  | valueMissing option => s!"Option {Text.quoted option} requires an argument."
  | valueGiven option => s!"Option {Text.quoted option} does not take a value."
  | directoryGiven option path =>
    s!"Invalid value for '{option}': File {Text.quoted path} is a directory."
  | targetsMissing => "Missing argument 'TARGETS...'."
  | extraArguments arguments =>
    let noun := if arguments.length = 1 then "argument" else "arguments"
    s!"Got unexpected extra {noun} (" ++ " ".intercalate arguments ++ ")"
  | unusablePath => LookupError.nulInside.text

/-- The exit code of a command line that cannot be read. -/
def UsageError.exitCode : UsageError → Int
  | unusablePath => 1
  | _ => 2

/-- What is printed about a command line that cannot be read. About a path that cannot be looked up
nothing is. -/
def UsageError.report : UsageError → String
  | unusablePath => ""
  | error => s!"Error: {error.message}\n"

/-! ## Options -/

/-- Whether an option takes a value. -/
inductive Shape where
  /-- It takes a value. -/
  | valued
  /-- It takes none. -/
  | switch
  deriving DecidableEq, Repr

/-- The options that a command has. -/
abbrev Shapes :=
  List (String × Shape)

/-- The options of a scan. -/
def scanShapes : Shapes := [
  ("--allow-extensions", .valued), ("--exclude-dirs", .valued), ("--output", .valued),
  ("--root", .valued), ("--resolve-paths", .switch), ("--no-resolve-paths", .switch),
  ("--help", .switch)]

/-- The options of the listing of rules. -/
def rulesShapes : Shapes :=
  [("--root", .valued), ("--help", .switch)]

/-- The options before the command. -/
def outerShapes : Shapes :=
  [("--version", .switch), ("--help", .switch), ("-h", .switch)]

/-- An option with its value, which is empty for one that takes none. -/
structure Given where
  /-- The name of the option. -/
  option : String
  /-- Its value. -/
  value : String
  deriving DecidableEq, Repr

/-- The options and the other arguments of a command, both in order. -/
structure Split where
  /-- The options. -/
  given : List Given
  /-- The other arguments. -/
  others : List String
  deriving DecidableEq, Repr

/-- With one more option in front. -/
def Split.withOption (option value : String) (split : Split) : Split :=
  { split with given := ⟨option, value⟩ :: split.given }

/-- With one more argument in front. -/
def Split.withOther (argument : String) (split : Split) : Split :=
  { split with others := argument :: split.others }

/-- Whether an argument is written as an option. -/
def isOption (argument : String) : Bool :=
  match argument.toList with
  | '-' :: _ :: _ => true
  | _ => false

/-- The name of an option and the value attached to it by an equals sign. -/
def splitAttached (argument : String) : String × Option String :=
  let name := argument.toList.takeWhile (· ≠ '=')
  match argument.toList.drop name.length with
  | _ :: value => (String.ofList name, some (String.ofList value))
  | [] => (argument, none)

/-- The letters behind a single dash, each of them an option without a value. -/
def readLetters (shapes : Shapes) : List Char → Except UsageError (List Given)
  | [] => .ok []
  | letter :: rest =>
    let name := String.ofList ['-', letter]
    match shapes.lookup name with
    | some _ => (readLetters shapes rest).map (⟨name, ""⟩ :: ·)
    | none => .error (.noSuchOption name [])

/-- Whether an option has two dashes in front. -/
def isLong (option : String) : Bool :=
  ['-', '-'].isPrefixOf option.toList

/-- The names of the options with two dashes in front. -/
def longNames (shapes : Shapes) : List String :=
  (shapes.map (·.1)).filter isLong

/-- The options of an argument that names none as a whole. -/
def readUnnamed (shapes : Shapes) (name argument : String) : Except UsageError (List Given) :=
  match argument.toList with
  | '-' :: '-' :: _ => .error (.noSuchOption name (Text.suggestions name (longNames shapes)))
  | letters => readLetters shapes letters.tail

/-- Tells the options of a command from its other arguments. If the arguments are not mixed,
everything from the first other argument on is left as it stands. -/
def splitArguments (shapes : Shapes) (mixed : Bool) : List String → Except UsageError Split
  | [] => .ok ⟨[], []⟩
  | argument :: rest =>
    if argument = "--" then .ok ⟨[], rest⟩
    else if isOption argument then
      let (name, attached) := splitAttached argument
      match shapes.lookup name, attached with
      | none, _ => do
        let given ← readUnnamed shapes name argument
        let split ← splitArguments shapes mixed rest
        return { split with given := given ++ split.given }
      | some .switch, some _ => .error (.valueGiven name)
      | some .switch, none => (splitArguments shapes mixed rest).map (·.withOption name "")
      | some .valued, some value => (splitArguments shapes mixed rest).map (·.withOption name value)
      | some .valued, none =>
        match rest with
        | [] => .error (.valueMissing name)
        | value :: later => (splitArguments shapes mixed later).map (·.withOption name value)
    else if mixed then (splitArguments shapes mixed rest).map (·.withOther argument)
    else .ok ⟨[], argument :: rest⟩

/-- The last value of an option. -/
def Split.value? (split : Split) (option : String) : Option String :=
  (split.given.reverse.find? (·.option == option)).map (·.value)

/-- Whether an option is given. -/
def Split.has (split : Split) (option : String) : Bool :=
  split.given.any (·.option == option)

/-! ## Requests -/

/-- What a scan is asked to do. -/
structure ScanOptions where
  /-- What to scan. -/
  targets : List String
  /-- The allowed endings, as a comma list. -/
  allowExtensions : Option String
  /-- The excluded directories, as a comma list. -/
  excludeDirs : Option String
  /-- Whether paths are resolved in shell scripts. -/
  resolvePaths : Option Bool
  /-- The file for the report. -/
  output : Option String
  /-- The directory of the configuration file. -/
  root : String
  deriving DecidableEq, Repr

/-- What a command line asks for. -/
inductive Request where
  /-- To say how a command is used. -/
  | help
  /-- To say which version this is. -/
  | version
  /-- To scan. -/
  | scan (options : ScanOptions)
  /-- To list the rules that apply with a directory's configuration. -/
  | rules (root : String)
  deriving DecidableEq, Repr

/-- The last of two opposite switches. -/
def Split.choice? (split : Split) (on off : String) : Option Bool :=
  (split.given.reverse.find? fun given => given.option == on || given.option == off).map
    (·.option == on)

/-- The options of a scan. -/
def ScanOptions.ofSplit (split : Split) : ScanOptions where
  targets := split.others
  allowExtensions := split.value? "--allow-extensions"
  excludeDirs := split.value? "--exclude-dirs"
  resolvePaths := split.choice? "--resolve-paths" "--no-resolve-paths"
  output := split.value? "--output"
  root := (split.value? "--root").getD "."

/-- Whether a path holds a NUL. -/
def holdsNul (path : String) : Bool :=
  path.toList.contains '\x00'

/-- The directory that stands where the report should go. -/
def directoryInTheWay? (disk : Disk) (options : ScanOptions) : Option String :=
  options.output.filter fun output => output ≠ "" && disk.isDirectory (Path.ofText output)

/-- Reads the arguments of a scan. -/
def readScan (disk : Disk) (arguments : List String) : Except UsageError Request := do
  let split ← splitArguments scanShapes true arguments
  let options := ScanOptions.ofSplit split
  if split.has "--help" then return .help
  else if (options.output.map holdsNul).getD false then .error .unusablePath
  else
    match directoryInTheWay? disk options with
    | some path => .error (.directoryGiven "--output" path)
    | none => if options.targets.isEmpty then .error .targetsMissing else return .scan options

/-- Reads the arguments of the listing of rules. -/
def readRules (arguments : List String) : Except UsageError Request := do
  let split ← splitArguments rulesShapes true arguments
  if split.has "--help" then return .help
  else if split.others.isEmpty then return .rules ((split.value? "--root").getD ".")
  else .error (.extraArguments split.others)

/-- What the options before the command ask for, of which the first counts. -/
def Split.outerRequest? (split : Split) : Option Request :=
  split.given.head?.map fun first => if first.option = "--version" then .version else .help

/-- The names of the commands. -/
def commandNames : List String :=
  ["scan", "rules"]

/-- Reads a command line whose command is unknown. Behind `--` an option can stand in the place of
the command, and is an option then. -/
def readUnknown (name : String) (arguments : List String) : Except UsageError Request := do
  match (← splitArguments outerShapes false arguments).outerRequest? with
  | some request => return request
  | none => .error (.noSuchCommand name (Text.suggestions name commandNames))

/-- Reads a command line. -/
def readRequest (disk : Disk) (arguments : List String) : Except UsageError Request := do
  let split ← splitArguments outerShapes false arguments
  match split.outerRequest? with
  | some request => return request
  | none =>
    match split.others with
    | [] => .error .commandMissing
    | "scan" :: rest => readScan disk rest
    | "rules" :: rest => readRules rest
    | name :: rest => readUnknown name (name :: rest)

end Footgun.Cli
