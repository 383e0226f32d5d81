import Footgun.Failure
import Footgun.Json.Basic
import Footgun.Rule.Basic

/-! # Configured rules

A `Definition` is a rule set as it is configured. Its lists may hold values of any kind, as sets
without repetition; only texts can match anything. `Definition.ofJson` reads the `rules` section of
a configuration, and `Definition.ruleSet` is what a scan uses of it. -/

namespace Footgun

/-! ## Sets of values -/

namespace Json

/-- A number or truth value as a coefficient and an exponent of two. -/
def dyadic? : Json → Option (Int × Int)
  | bool value => some (if value then 1 else 0, 0)
  | int value => some (value, 0)
  | real (.finite negative coefficient exponent) =>
    some (if negative then -(coefficient : Int) else coefficient, exponent)
  | _ => none

/-- The order of two numbers given by coefficients and exponents of two. -/
def compareDyadic (first second : Int × Int) : Ordering :=
  let least := min first.2 second.2
  compare (first.1 * (Nat.pow 2 (first.2 - least).toNat : Nat))
    (second.1 * (Nat.pow 2 (second.2 - least).toNat : Nat))

/-- Whether two values count as one member of a set. Numbers and truth values are compared by
value. -/
def sameMember (first second : Json) : Bool :=
  match first, second with
  | null, null => true
  | str first, str second => first == second
  | real (.infinite first), real (.infinite second) => first == second
  | first, second =>
    match first.dyadic?, second.dyadic? with
    | some first, some second => compareDyadic first second == .eq
    | _, _ => false

/-- Whether a value can be a member of a set: it is no list and no object. -/
def isScalar : Json → Bool
  | arr _ => false
  | obj _ => false
  | _ => true

/-- The values without those that are in the list before. -/
def distinct (values : List Json) : List Json :=
  (values.foldl (fun kept value => if kept.any (sameMember value) then kept else value :: kept)
    []).reverse

/-- The elements of a value that is taken as a collection: the items of a list, the characters of a
text, the names of an object. -/
def elements? : Json → Option (List Json)
  | arr items => some items
  | str text => some (text.toList.map fun c => str (String.singleton c))
  | obj fields => some (fields.map fun field => str field.1)
  | _ => none

/-- The members of a set in order: texts by their code points, numbers by value. Values of different
kinds have no order. -/
def sorted? (values : List Json) : Option (List Json) :=
  if values.length ≤ 1 then some values
  else
    match values.mapM text?, values.mapM dyadic? with
    | some texts, _ => some ((texts.mergeSort (fun a b => decide (a ≤ b))).map str)
    | none, some _ =>
      some (values.mergeSort fun a b =>
        compareDyadic (a.dyadic?.getD (0, 0)) (b.dyadic?.getD (0, 0)) != .gt)
    | none, none => none

end Json

/-! ## Definitions -/

/-- A rule set as it is configured. -/
structure Definition where
  /-- The name of the command. -/
  name : Json
  /-- What it is called in findings. -/
  label : Json
  /-- The hazardous flags. -/
  flags : List Json
  /-- The paths that must not be its target. -/
  unsafePaths : List Json

namespace Definition

/-- The definition that applies when nothing else is configured. -/
def standard : Definition where
  name := .str RuleSet.standard.command.name
  label := .str RuleSet.standard.command.label
  flags := RuleSet.standard.command.flags.map .str
  unsafePaths := RuleSet.standard.unsafePaths.map .str

/-- The set that a value denotes; nothing given means the standard one. -/
def members (given : Option Json) (fallback : List Json) : Except Failure (List Json) :=
  match given with
  | none | some .null => .ok fallback
  | some value =>
    match value.elements? with
    | none => .error ⟨.wrongType, "the value is no list"⟩
    | some elements =>
      if elements.all Json.isScalar then .ok (Json.distinct elements)
      else .error ⟨.wrongType, "a list or an object cannot be a member of a set"⟩

/-- A given value that counts, and a fallback otherwise. -/
def orElse (given : Option Json) (fallback : Json) : Json :=
  match given with
  | some value => if value.isTruthy then value else fallback
  | none => fallback

/-- The label of a command that is given none. -/
def labelFor (name : Json) : Json :=
  if name.text? = some Rule.standard.name then .str Rule.standard.label else name

/-- The definition that a configuration section gives, missing entries taken from the standard
one. -/
def ofJson (config : Json) : Except Failure Definition :=
  if !config.isTruthy then .ok standard
  else
    match config with
    | .obj _ => do
      let name := orElse (config.get? "command") standard.name
      let label := orElse (config.get? "label") (labelFor name)
      let flags ← members (config.get? "flags") standard.flags
      let unsafePaths ← members (config.get? "unsafe_paths") standard.unsafePaths
      return ⟨name, label, flags, unsafePaths⟩
    | _ => .error ⟨.noOperation, "the section is no object"⟩

/-- What a scan uses of a definition: its texts. -/
def ruleSet (definition : Definition) : RuleSet where
  command := {
    name := definition.name.text?.getD ""
    flags := definition.flags.filterMap Json.text?
    label := definition.label.text?.getD "" }
  unsafePaths := definition.unsafePaths.filterMap Json.text?

/-- The texts of a set in order, divided by commas. A member that is no text cannot be listed. -/
def listing (values : List Json) : Except Failure String :=
  match values.mapM Json.text? with
  | some texts => .ok (", ".intercalate (texts.mergeSort (fun a b => decide (a ≤ b))))
  | none => .error ⟨.wrongType, "a member is no text"⟩

end Definition

end Footgun
