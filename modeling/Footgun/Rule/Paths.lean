import Footgun.Command.Bindings
import Footgun.Rule.Basic

/-! # Hazardous paths

`classifyPaths` decides whether the words after a hazardous flag name an unsafe path. Words that are
written out are looked up one by one. The first word with an expansion decides: its variable is
resolved in one step, and later words do not count. -/

namespace Footgun

/-- How an argument comes to name an unsafe path. -/
inductive HazardReason where
  /-- The path itself is unsafe. -/
  | unsafePath
  /-- The value of the variable is unsafe. -/
  | unsafeValue
  deriving DecidableEq, Repr

/-- What a finding says about the reason. -/
def HazardReason.text : HazardReason → String
  | unsafePath => "located unsafe path used, consider using ./ instead"
  | unsafeValue => "unsafe value for variable, consider using ./ instead"

/-- An argument that names an unsafe path. -/
structure PathHazard where
  /-- How it does so. -/
  reason : HazardReason
  /-- The argument. -/
  path : String
  /-- The variable that it was resolved through. -/
  through : Option String
  deriving DecidableEq, Repr

/-- Whether a text holds an expansion in brackets. -/
def hasExpansion : List Char → Bool
  | '$' :: c :: rest => c == '(' || c == '\x7b' || hasExpansion (c :: rest)
  | _ :: rest => hasExpansion rest
  | [] => false

/-- What stands before a bracket, and what stands after it, if there is one. -/
def splitAtBracket? (bracket : Char) (text : List Char) : Option (List Char × List Char) :=
  match text.dropWhile (· ≠ bracket) with
  | [] => none
  | _ :: rest => some (text.takeWhile (· ≠ bracket), rest)

/-- Whether a character ends the name of a variable without brackets. -/
def endsName (c : Char) : Bool :=
  c == '/' || c == ' ' || c == '*'

/-- The variable that a text starts with, and the rest of the text. A name in brackets ends at the
first closing one; any other name ends before a slash, a blank or a star. Both parts are empty if
the text starts with no variable. -/
def splitVariable (text : List Char) : List Char × List Char :=
  let bare : List Char × List Char :=
    match text with
    | '$' :: name => (name.takeWhile (!endsName ·), name.dropWhile (!endsName ·))
    | _ => ([], [])
  match text with
  | '$' :: '(' :: rest => (splitAtBracket? ')' rest).getD bare
  | '$' :: '\x7b' :: rest => (splitAtBracket? '\x7d' rest).getD bare
  | _ => bare

/-- The verdict on a trimmed word with an expansion. Nothing is known of a variable without a value,
so only what follows it counts. -/
def classifyExpansion (table : Bindings) (unsafePaths : List String) (word : String) :
    Option PathHazard :=
  let parts := splitVariable word.toList
  let name := String.ofList parts.1
  let rest := String.ofList parts.2
  match table.get? name with
  | none => if unsafePaths.contains rest then some ⟨.unsafePath, word, none⟩ else none
  | some value =>
    if unsafePaths.contains (Text.trim value) then some ⟨.unsafeValue, word, some name⟩
    else if unsafePaths.contains (Text.trim value ++ rest) then some ⟨.unsafePath, word, some name⟩
    else none

/-- The first hazard among the words. -/
def classifyPaths (table : Bindings) (unsafePaths : List String) : List String → Option PathHazard
  | [] => none
  | word :: rest =>
    let trimmed := Text.trim word
    if hasExpansion trimmed.toList then classifyExpansion table unsafePaths trimmed
    else if unsafePaths.contains trimmed then some ⟨.unsafePath, trimmed, none⟩
    else classifyPaths table unsafePaths rest

end Footgun
