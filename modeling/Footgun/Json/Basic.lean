import Footgun.Json.Real

/-! # JSON values

`Json` is a value of the data format that configuration files, reports and journals use. Integers
and other numbers are told apart, and the fields of an object keep their order. -/

namespace Footgun

/-- A value of the data format. -/
inductive Json where
  /-- The empty value. -/
  | null
  /-- A truth value. -/
  | bool (value : Bool)
  /-- An integer. -/
  | int (value : Int)
  /-- A number written with a fraction or an exponent. -/
  | real (value : Json.Real)
  /-- A text. -/
  | str (value : String)
  /-- A list of values. -/
  | arr (items : List Json)
  /-- An object: names with values, in order. -/
  | obj (fields : List (String × Json))
  deriving Repr

namespace Json

/-- Fields with the value of one name put in place, or at the end if the name is new. -/
def put (name : String) (value : Json) : List (String × Json) → List (String × Json)
  | [] => [(name, value)]
  | field :: rest =>
    if field.1 = name then (name, value) :: rest else field :: put name value rest

/-- The value of a field, and nothing for a value that is no object. -/
def get? (name : String) : Json → Option Json
  | obj fields => fields.lookup name
  | _ => none

/-- Whether a value counts as given. Zero and whatever is empty do not. -/
def isTruthy : Json → Bool
  | null => false
  | bool value => value
  | int value => value ≠ 0
  | real (.finite _ coefficient _) => coefficient ≠ 0
  | real _ => true
  | str value => value ≠ ""
  | arr items => !items.isEmpty
  | obj fields => !fields.isEmpty

/-- The text of a value that is one. -/
def text? : Json → Option String
  | str value => some value
  | _ => none

end Json

end Footgun
