/-! # Size limits

Files of a given size or more are not scanned. A configuration may also give a truth value for a
limit, which counts as zero or one. -/

namespace Footgun

/-- A size limit for files. -/
inductive Limit where
  /-- A number of bytes. -/
  | bytes (count : Int)
  /-- A truth value. -/
  | switch (on : Bool)
  deriving DecidableEq, Repr

/-- The number of bytes that a limit stands for. -/
def Limit.count : Limit → Int
  | bytes count => count
  | switch on => if on then 1 else 0

/-- The printed form of a limit. -/
def Limit.text : Limit → String
  | bytes count => toString count
  | switch on => if on then "True" else "False"

/-- Whether a file of a size is too large. -/
def Limit.excludes (limit : Limit) (size : Nat) : Bool :=
  limit.count ≤ size

end Footgun
