import Footgun.Journal.Level
import Footgun.Json.Writer
import Footgun.Text.Quoted

/-! # Journal records

A record is one entry of the journal with all that is known about it. It is written either as a line
for people or as an object on a line of its own. -/

namespace Footgun.Journal

/-! ## Times -/

/-- A moment of universal time. -/
structure Moment where
  /-- The year. -/
  year : Nat
  /-- The month, from one. -/
  month : Nat
  /-- The day of the month, from one. -/
  day : Nat
  /-- The hour. -/
  hour : Nat
  /-- The minute. -/
  minute : Nat
  /-- The second. -/
  second : Nat
  /-- The millionth of a second. -/
  micro : Nat
  deriving DecidableEq, Repr

/-- A number in at least so many digits. -/
def padNumber (digits number : Nat) : String :=
  let text := toString number
  String.ofList (List.replicate (digits - text.length) '0') ++ text

/-- The time of day. -/
def Moment.clock (moment : Moment) : String :=
  ":".intercalate ([moment.hour, moment.minute, moment.second].map (padNumber 2))

/-- The date. -/
def Moment.date (moment : Moment) : String :=
  s!"{padNumber 4 moment.year}-{padNumber 2 moment.month}-{padNumber 2 moment.day}"

/-- The date and the time of day, with millionths only if there are any, and the offset. -/
def Moment.text (moment : Moment) : String :=
  let fraction := if moment.micro = 0 then "" else "." ++ padNumber 6 moment.micro
  s!"{moment.date}T{moment.clock}{fraction}+00:00"

/-! ## Records -/

/-- What went wrong at an entry: a kind and a value, each if it is known. -/
structure Mishap where
  /-- The name of the kind. -/
  kind : Option String
  /-- The text of the value. -/
  value : Option String
  deriving DecidableEq, Repr

/-- The printed kind. -/
def Mishap.name (mishap : Mishap) : String :=
  mishap.kind.getD "Error"

/-- The printed value. A missing key is quoted. -/
def Mishap.text (mishap : Mishap) : String :=
  match mishap.value with
  | none => ""
  | some value => if mishap.kind = some "KeyError" then Text.quoted value else value

/-- A mishap as an object. -/
def Mishap.toJson (mishap : Mishap) : Json :=
  .obj [("type", .str mishap.name), ("message", .str mishap.text)]

/-- A mishap in one line. -/
def Mishap.summary (mishap : Mishap) : String :=
  if mishap.text = "" then mishap.name else s!"{mishap.name}: {mishap.text}"

/-- What a record says in an object. -/
structure Entry where
  /-- The name of its level. -/
  level : String
  /-- The text of its time. -/
  time : String
  /-- What it says. -/
  message : String
  /-- The module that it comes from. -/
  module : String
  /-- The number of the process. -/
  process : Int
  /-- Further fields. -/
  extra : List (String × Json)
  /-- What went wrong, if anything. -/
  mishap? : Option Mishap

/-- An entry as an object. A further field takes the place of a field with its name. -/
def Entry.toJson (entry : Entry) : Json :=
  let fields : List (String × Json) := [
    ("level", .str entry.level), ("time", .str entry.time), ("msg", .str entry.message),
    ("module", .str entry.module), ("pid", .int entry.process)]
  let mishaps := entry.mishap?.toList.map fun mishap => ("err", mishap.toJson)
  .obj ((entry.extra ++ mishaps).foldl (fun fields field => Json.put field.1 field.2 fields) fields)

/-- An entry on one line. -/
def Entry.text (entry : Entry) : String :=
  entry.toJson.compact

/-- One entry of the journal. -/
structure Record where
  /-- How serious it is. -/
  level : Level
  /-- When it was made. -/
  time : Moment
  /-- What it says. -/
  message : String
  /-- The module that it comes from. -/
  module : String
  /-- The function that it comes from. -/
  function : String
  /-- The line that it comes from. -/
  line : Int
  /-- The number of the process. -/
  process : Int
  /-- Further fields. -/
  extra : List (String × Json)
  /-- What went wrong, if anything. -/
  mishap? : Option Mishap

namespace Record

/-- What a record says in an object. -/
def entry (record : Record) : Entry where
  level := record.level.name
  time := record.time.text
  message := record.message
  module := record.module
  process := record.process
  extra := record.extra
  mishap? := record.mishap?

/-- A name filled up with blanks. -/
def padName (columns : Nat) (name : String) : String :=
  name ++ String.ofList (List.replicate (columns - name.length) ' ')

/-- A record as a line for people. -/
def human (record : Record) : String :=
  let place := s!"{record.module}:{record.function}:{record.line}"
  let line := s!"{record.time.clock} | {padName 8 record.level.name} | {place} - {record.message}\n"
  match record.mishap? with
  | none => line
  | some mishap => line ++ mishap.summary ++ "\n"

/-- A record as an object on a line of its own. -/
def machine (record : Record) : String :=
  record.entry.text ++ "\n"

end Record

end Footgun.Journal
