import Footgun.Disk.Basic

/-! # Glob patterns

A pattern selects paths by the shape of their names: `*` stands for any text, `?` for any character
and `[…]` for a character of a set. `Pattern.accepts` decides about one name; `Disk.glob` finds the
paths on a disk. Names that start with a dot are only found by patterns that do so, too. -/

namespace Footgun

/-! ## Patterns for names -/

/-- A set of characters, written as pieces between hyphens. A hyphen spans the range from the last
character of one piece to the first character of the next. -/
structure CharSet where
  /-- Whether the set holds the characters that are not written. -/
  negated : Bool
  /-- The pieces. -/
  pieces : List (List Char)
  deriving DecidableEq, Repr

/-- A part of a pattern. -/
inductive Token where
  /-- Any text. -/
  | anyText
  /-- Any character. -/
  | anyChar
  /-- A character of a set. -/
  | oneOf (set : CharSet)
  /-- One character. -/
  | only (c : Char)
  deriving DecidableEq, Repr

namespace CharSet

/-- The pieces of a set: a hyphen divides two pieces if at least one character stands before it in
the first piece and two in each other one. -/
def cutPieces (least : Nat) (piece : List Char) : List Char → List (List Char)
  | [] => [piece.reverse]
  | c :: rest =>
    if c = '-' && least ≤ piece.length then piece.reverse :: cutPieces 2 [] rest
    else cutPieces least (c :: piece) rest

/-- Pieces in which a hyphen at the end belongs to the piece before it. -/
def keepLastHyphen : List (List Char) → List (List Char)
  | [first, []] => [first ++ ['-']]
  | first :: rest => first :: keepLastHyphen rest
  | [] => []

/-- Pieces without the ranges that run backwards, from the last one on. -/
def dropBackward : List (List Char) → List (List Char)
  | [] => []
  | first :: rest =>
    match dropBackward rest with
    | [] => [first]
    | second :: others =>
      match first.getLast?, second.head? with
      | some low, some high =>
        if high < low then (first.dropLast ++ second.drop 1) :: others
        else first :: second :: others
      | _, _ => first :: second :: others

/-- The pieces of what stands between the brackets. -/
def piecesOf (text : List Char) : List (List Char) :=
  dropBackward (keepLastHyphen (cutPieces (if text.head? = some '!' then 2 else 1) [] text))

/-- Pieces in which a hyphen at the start belongs to the piece after it. -/
def keepFirstHyphen : List (List Char) → List (List Char)
  | [] :: second :: rest => ('-' :: second) :: rest
  | pieces => pieces

/-- The set of what stands between the brackets. An exclamation mark in front of the pieces that are
left negates it. -/
def ofText (text : List Char) : CharSet :=
  match piecesOf text with
  | ('!' :: first) :: rest => ⟨true, keepFirstHyphen (first :: rest)⟩
  | pieces => ⟨false, pieces⟩

/-- Whether a character is written in the pieces or lies in a range between two of them. -/
def spans (c : Char) : List (List Char) → Bool
  | [] => false
  | [piece] => piece.contains c
  | first :: second :: rest =>
    first.contains c ||
      (match first.getLast?, second.head? with
        | some low, some high => low ≤ c && c ≤ high
        | _, _ => false) ||
      spans c (second :: rest)

/-- Whether a character belongs to the set. -/
def accepts (set : CharSet) (c : Char) : Bool :=
  spans c set.pieces != set.negated

end CharSet

/-- A pattern for names. -/
abbrev Pattern :=
  List Token

namespace Pattern

/-- The characters after an opening bracket that cannot close it: an exclamation mark, and a closing
bracket right after it or after the opening one. -/
def setLead : List Char → List Char
  | '!' :: ']' :: _ => ['!', ']']
  | '!' :: _ => ['!']
  | ']' :: _ => [']']
  | _ => []

/-- What stands between brackets, and what follows them, if the brackets are closed. -/
def splitSet? (text : List Char) : Option (List Char × List Char) :=
  let rest := text.drop (setLead text).length
  match rest.dropWhile (· ≠ ']') with
  | [] => none
  | _ :: following => some (setLead text ++ rest.takeWhile (· ≠ ']'), following)

/-- What follows a set is shorter than the text that it is cut from. -/
theorem length_lt_of_splitSet? {text set following : List Char}
    (h : splitSet? text = some (set, following)) : following.length < text.length := by
  have hle := (List.dropWhile_suffix (l := text.drop (setLead text).length) (· ≠ ']')).length_le
  unfold splitSet? at h
  simp only at h
  split at h
  · simp at h
  · rename_i hdrop
    simp only [Option.some.injEq, Prod.mk.injEq] at h
    rw [hdrop, List.length_drop, List.length_cons] at hle
    rw [← h.2]
    omega

/-- The pattern that a text denotes. A bracket that is not closed stands for itself. -/
def ofText (text : List Char) : Pattern :=
  match text with
  | [] => []
  | '*' :: rest => .anyText :: ofText rest
  | '?' :: rest => .anyChar :: ofText rest
  | '[' :: rest =>
    match _h : splitSet? rest with
    | some (set, following) => .oneOf (CharSet.ofText set) :: ofText following
    | none => .only '[' :: ofText rest
  | c :: rest => .only c :: ofText rest
termination_by text.length
decreasing_by
  all_goals simp only [List.length_cons]
  all_goals try omega
  have := length_lt_of_splitSet? _h
  omega

/-- The ends of a text, the longest first. -/
def endings : List Char → List (List Char)
  | [] => [[]]
  | c :: rest => (c :: rest) :: endings rest

/-- Whether a name has the shape of a pattern. -/
def accepts : Pattern → List Char → Bool
  | [], name => name.isEmpty
  | .anyText :: rest, name => (endings name).any (accepts rest)
  | .anyChar :: rest, _ :: name => accepts rest name
  | .oneOf set :: rest, c :: name => set.accepts c && accepts rest name
  | .only d :: rest, c :: name => c == d && accepts rest name
  | _ :: _, [] => false

end Pattern

/-- Whether a text holds a character that makes it a pattern. -/
def hasMagic (text : List Char) : Bool :=
  text.any fun c => c == '*' || c == '?' || c == '['

/-! ## Patterns for paths -/

/-- Whether a name starts with a dot. -/
def isHidden (name : List Char) : Bool :=
  name.head? == some '.'

/-- The last name of a path, and what stands before it without the slashes in between. Slashes alone
are kept. -/
def splitLast (text : List Char) : List Char × List Char :=
  let name := (text.reverse.takeWhile (· ≠ '/')).reverse
  let above := (text.reverse.dropWhile (· ≠ '/')).reverse
  let trimmed := (above.reverse.dropWhile (· == '/')).reverse
  (if trimmed.isEmpty then above else trimmed, name)

/-- A path and a name below it, with a slash in between unless there is one. -/
def joinName (above name : List Char) : List Char :=
  if above.isEmpty then name
  else if above.getLast? = some '/' then above ++ name
  else above ++ '/' :: name

namespace Disk

/-- The names in a directory, or only those that lead to directories. There are none if there is no
directory; a path that holds a NUL is an error. -/
def names (disk : Disk) (directoriesOnly : Bool) (path : List Char) :
    Except LookupError (List (List Char)) :=
  let base := Path.ofText (String.ofList path)
  match disk.find true base with
  | .ok ⟨_, some (.directory entries), _⟩ =>
    .ok ((entries.filter fun entry => !directoriesOnly || disk.isDirectory (base.child entry.1)).map
      (·.1.toList))
  | .error .nulInside => .error .nulInside
  | _ => .ok []

/-- The names in a directory that fit the last part of a pattern. -/
def namesLike (disk : Disk) (directoriesOnly : Bool) (path last : List Char) :
    Except LookupError (List (List Char)) :=
  if hasMagic last then do
    let names ← disk.names directoriesOnly path
    return (names.filter fun name => isHidden last || !isHidden name).filter
      (Pattern.accepts (Pattern.ofText last))
  else
    let whole := Path.ofText (String.ofList (joinName path last))
    if last.isEmpty then .ok (if disk.isDirectory whole then [last] else [])
    else .ok (if disk.hasName whole then [last] else [])

/-- The paths that fit a pattern whose directory parts are fewer than the fuel. -/
def globParts (disk : Disk) : Nat → Bool → List Char → Except LookupError (List (List Char))
  | 0, _, _ => .ok []
  | fuel + 1, directoriesOnly, pattern => do
    let (above, last) := splitLast pattern
    if above.isEmpty then disk.namesLike directoriesOnly [] last
    else
      let bases ← if hasMagic above then globParts disk fuel true above else .ok [above]
      let found ← bases.mapM fun base => do
        return (← disk.namesLike directoriesOnly base last).map (joinName base)
      return found.flatten

/-- The paths on the disk that fit a pattern. It cannot be told if the directory in front of the
first name with a wildcard holds a NUL. -/
def glob (disk : Disk) (pattern : String) : Except LookupError (List String) := do
  return (← globParts disk (pattern.toList.length + 1) false pattern.toList).map String.ofList

end Disk

end Footgun
