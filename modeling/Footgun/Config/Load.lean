import Footgun.Config.Setting
import Footgun.Disk.Basic
import Footgun.Environment
import Footgun.Journal.Event
import Footgun.Json.Reader
import Footgun.Text.Utf8

/-! # Loading the configuration

`Config.load` starts from the standard configuration, puts the entries of a configuration file in
place and then those of the environment. Entries that do not fit are reported and left out. -/

namespace Footgun.Config

open Journal (Event)

/-! ## The file -/

/-- The name of the configuration file. -/
def fileName : String :=
  ".hazardous.json"

/-- Puts a field of a group in place, or reports it. -/
def mergeField (path group : String) (state : Config × List Event) (field : String × Json) :
    Config × List Event :=
  match (Key.find? group field.1).bind fun key =>
      ((state.1 key).accept? field.2).map fun setting => (key, setting) with
  | some (key, setting) => (state.1.set key setting, state.2)
  | none => (state.1, state.2 ++ [.keyIgnored group field.1 path])

/-- Puts the fields of a group in place. A group that is no object is passed over. -/
def mergeGroup (path : String) (document : Json) (state : Config × List Event) (group : String) :
    Config × List Event :=
  match document.get? group with
  | some (.obj fields) => fields.foldl (mergeField path group) state
  | _ => state

/-- Puts the entries of a configuration document in place. -/
def mergeDocument (path : String) (document : Json) (config : Config) : Config × List Event :=
  Key.groups.foldl (mergeGroup path document) (config, [])

/-- The configuration without the file, and the report why. -/
def withoutFile (path cause : String) : Config × List Event :=
  (standard, [.configUnusable path cause, .configDefaulted])

/-- The configuration of a file. A file that is no document of the data format counts as none; bytes
that are no text, integers that are too long and values that are nested too deeply are failures. -/
def loadFile (disk : Disk) (path : Path) : Except Failure (Config × List Event) :=
  match disk.probe path with
  | .error error => .ok (withoutFile path.text error.text)
  | .ok none => .ok (standard, [])
  | .ok (some _) =>
    match disk.read path with
    | .error error => .ok (withoutFile path.text error.text)
    | .ok bytes =>
      match Text.decode? bytes with
      | none => .error ⟨.noText, s!"the bytes of {path.text} are not UTF-8"⟩
      | some text =>
        match Json.read text with
        | .error .malformed => .ok (withoutFile path.text "the text is not JSON")
        | .error .hugeInteger =>
            .error ⟨.badValue, s!"an integer in {path.text} has too many digits"⟩
        | .error .tooDeep => .error ⟨.tooDeep, s!"a value in {path.text} is nested too deeply"⟩
        | .ok document => .ok (mergeDocument path.text document standard)

/-! ## The environment -/

/-- Puts the environment variable of one entry in place, or reports it. -/
def mergeVariable (environment : Environment) (state : Config × List Event) (key : Key) :
    Config × List Event :=
  match environment.lookup key.environmentName with
  | none => state
  | some value =>
    match (state.1 key).coerce? value with
    | some setting => (state.1.set key setting, state.2)
    | none => (state.1, state.2 ++ [.variableInvalid key.environmentName (state.1 key).number])

/-- The configuration of a directory and an environment. -/
def load (disk : Disk) (environment : Environment) (root : String) :
    Except Failure (Config × List Event) := do
  let state ← loadFile disk ((Path.ofText root).child fileName)
  return Key.all.foldl (mergeVariable environment) state

end Footgun.Config
