import Footgun.Json.Basic
import Footgun.Limit
import Footgun.Rule.Basic
import Footgun.Text.CommaList
import Footgun.Text.Integer
import Footgun.Text.Lowercase

/-! # Settings

The configuration has eight entries in two groups. A `Config` gives each `Key` its `Setting`; the
standard one applies when nothing else is configured. -/

namespace Footgun

/-- The entries of the configuration. -/
inductive Key where
  /-- The endings of the files to scan. -/
  | allowExtensions
  /-- The names of the directories to leave out. -/
  | excludeDirs
  /-- Whether paths are resolved in shell scripts. -/
  | resolvePaths
  /-- The size from which on files are not scanned. -/
  | maxFileSize
  /-- The hazardous command. -/
  | command
  /-- What it is called. -/
  | label
  /-- Its hazardous flags. -/
  | flags
  /-- The paths that must not be its target. -/
  | unsafePaths
  deriving DecidableEq, Repr

namespace Key

/-- All entries, group by group. -/
def all : List Key :=
  [allowExtensions, excludeDirs, resolvePaths, maxFileSize, command, label, flags, unsafePaths]

/-- The groups of entries. -/
def groups : List String :=
  ["scan", "rules"]

/-- The group of an entry. -/
def group : Key → String
  | allowExtensions | excludeDirs | resolvePaths | maxFileSize => "scan"
  | command | label | flags | unsafePaths => "rules"

/-- The name of an entry in its group. -/
def name : Key → String
  | allowExtensions => "allow_extensions"
  | excludeDirs => "exclude_dirs"
  | resolvePaths => "resolve_paths"
  | maxFileSize => "max_file_size"
  | command => "command"
  | label => "label"
  | flags => "flags"
  | unsafePaths => "unsafe_paths"

/-- The entry with a name in a group. -/
def find? (group name : String) : Option Key :=
  all.find? fun key => key.group == group && key.name == name

/-- The environment variable of an entry. -/
def environmentName (key : Key) : String :=
  s!"HAZARDOUS_{key.group.toUpper}_{key.name.toUpper}"

end Key

/-- The value of an entry. -/
inductive Setting where
  /-- A truth value. -/
  | flag (on : Bool)
  /-- A number. -/
  | count (number : Int)
  /-- A list of values. -/
  | items (values : List Json)
  /-- A text. -/
  | text (value : String)
  deriving Repr

namespace Setting

/-- The value as a value of the data format. -/
def toJson : Setting → Json
  | flag on => .bool on
  | count number => .int number
  | items values => .arr values
  | text value => .str value

/-- A value of a configuration file in place of the current one, if it has the same type. A truth
value passes for a number. -/
def accept? (current : Setting) (value : Json) : Option Setting :=
  match current, value with
  | flag _, .bool on => some (flag on)
  | count _, .int number => some (count number)
  | count _, .bool on => some (flag on)
  | items _, .arr values => some (items values)
  | text _, .str value => some (text value)
  | _, _ => none

/-- Whether a text stands for yes. -/
def isYes (value : String) : Bool :=
  ["1", "true", "yes", "on"].contains (Text.lowercase (Text.trim value))

/-- The value of an environment variable in place of the current one, read according to the current
one's type. Only numbers can be misspelt. -/
def coerce? (current : Setting) (value : String) : Option Setting :=
  match current with
  | flag _ => some (flag (isYes value))
  | count _ => (Text.readInteger value).map count
  | items _ => some (items ((Text.commaList value).map .str))
  | text _ => some (text value)

/-- The number that is kept when a number is misspelt. -/
def number : Setting → Int
  | count number => number
  | _ => 0

/-- Whether a value is the truth value for yes. -/
def isOn : Setting → Bool
  | flag on => on
  | _ => false

/-- The size limit that a value stands for. -/
def limit : Setting → Limit
  | flag on => .switch on
  | setting => .bytes setting.number

end Setting

/-- The value of every entry. -/
abbrev Config :=
  Key → Setting

namespace Config

/-- What applies when nothing else is configured. -/
def standard : Config
  | .allowExtensions => .items [.str ".sh", .str "Makefile"]
  | .excludeDirs => .items [.str "node_modules", .str "linters"]
  | .resolvePaths => .flag false
  | .maxFileSize => .count (2 * 1024 * 1024)
  | .command => .text Rule.standard.name
  | .label => .text Rule.standard.label
  | .flags => .items [.str "--recursive --force", .str "-fr", .str "-rf"]
  | .unsafePaths => .items [.str "/", .str "/*"]

/-- The configuration with one entry changed. -/
def set (config : Config) (key : Key) (setting : Setting) : Config :=
  fun other => if other = key then setting else config other

/-- The entries of a group as an object. -/
def groupJson (config : Config) (group : String) : Json :=
  .obj ((Key.all.filter (·.group == group)).map fun key => (key.name, (config key).toJson))

/-- The values of an entry that is a list. -/
def list (config : Config) (key : Key) : List Json :=
  match config key with
  | .items values => values
  | _ => []

end Config

end Footgun
