/-! # Levels

How serious a journal entry is. -/

namespace Footgun.Journal

/-- How serious an entry is. -/
inductive Level where
  /-- Finest detail. -/
  | trace
  /-- Detail for finding faults. -/
  | debug
  /-- Ordinary progress. -/
  | info
  /-- Something that worked. -/
  | success
  /-- Something to look at. -/
  | warning
  /-- Something that failed. -/
  | error
  /-- Something that must not happen. -/
  | critical
  deriving DecidableEq, Repr

namespace Level

/-- All levels, the least serious first. -/
def all : List Level :=
  [trace, debug, info, success, warning, error, critical]

/-- The printed name of a level. -/
def name : Level → String
  | trace => "TRACE"
  | debug => "DEBUG"
  | info => "INFO"
  | success => "SUCCESS"
  | warning => "WARNING"
  | error => "ERROR"
  | critical => "CRITICAL"

/-- The weight of a level. -/
def severity : Level → Nat
  | trace => 5
  | debug => 10
  | info => 20
  | success => 25
  | warning => 30
  | error => 40
  | critical => 50

/-- The capital letters of a character, as far as they can stand in the name of a level. -/
def capitals (c : Char) : List Char :=
  if c = 'ı' then ['I']
  else if c = 'ſ' then ['S']
  else if c = 'ß' then ['S', 'S']
  else [c.toUpper]

/-- The level of a name in letters of any case. -/
def ofName? (name : String) : Option Level :=
  let upper := String.ofList (name.toList.flatMap capitals)
  all.find? (·.name == upper)

end Level

end Footgun.Journal
