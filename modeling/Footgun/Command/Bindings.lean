import Footgun.Text.Blank

/-! # Variable bindings

A binding table gives each variable of a file one text: the one it was assigned last. There are no
scopes. An empty text stands for a variable without a known value. Names keep the order in which
they first came up. -/

namespace Footgun

/-- The values of variables, in the order in which the names first came up. -/
structure Bindings where
  /-- The names with their values. -/
  entries : List (String × String)
  deriving DecidableEq, Repr

namespace Bindings

/-- The table without variables. -/
def empty : Bindings :=
  ⟨[]⟩

/-- The value of a variable. -/
def get? (table : Bindings) (name : String) : Option String :=
  table.entries.lookup name

/-- Whether a variable came up. -/
def contains (table : Bindings) (name : String) : Bool :=
  table.entries.any (·.1 == name)

/-- The number of variables. -/
def size (table : Bindings) : Nat :=
  table.entries.length

/-- Entries with the value of one name put in place, or at the end if the name is new. -/
def put (name value : String) : List (String × String) → List (String × String)
  | [] => [(name, value)]
  | entry :: rest =>
    if entry.1 = name then (name, value) :: rest else entry :: put name value rest

/-- Assigns a value to a variable. -/
def bind (table : Bindings) (name value : String) : Bindings :=
  ⟨put name value table.entries⟩

/-- Records a variable, and leaves the value that it may have. -/
def declare (table : Bindings) (name : String) : Bindings :=
  if table.contains name then table else ⟨table.entries ++ [(name, "")]⟩

/-- The variables whose value is blank, in order. -/
def unassigned (table : Bindings) : List String :=
  (table.entries.filter fun entry => Text.trim entry.2 == "").map (·.1)

end Bindings

end Footgun
