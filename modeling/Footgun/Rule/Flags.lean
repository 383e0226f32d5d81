import Footgun.Rule.Basic

/-! # Hazardous flags

`matchFlags` looks for the first hazardous flag among the words of a command. A run of long flags is
also looked up as one string, joined by blanks; short flags never join. Look-ups are exact. -/

namespace Footgun

/-- A hazardous flag that was found. -/
structure FlagMatch where
  /-- The flag, or the run of long flags. -/
  flag : String
  /-- The index of the word that completed it. -/
  index : Nat
  deriving DecidableEq, Repr

/-- Whether a word is a long flag. -/
def isLongFlag (word : String) : Bool :=
  ['-', '-'].isPrefixOf word.toList

/-- The run of long flags that a word extends, or the word alone. -/
def extendRun (run word : String) : String :=
  if isLongFlag word && isLongFlag run then run ++ " " ++ word else word

/-- The first hazardous flag from an index on, given the run of long flags before it. Empty words
only count for the index. -/
def matchFlagsFrom (flags : List String) (index : Nat) (run : String) :
    List String → Option FlagMatch
  | [] => none
  | word :: rest =>
    if word = "" then matchFlagsFrom flags (index + 1) run rest
    else if flags.contains word then some ⟨word, index⟩
    else if flags.contains (extendRun run word) then some ⟨extendRun run word, index⟩
    else matchFlagsFrom flags (index + 1) (extendRun run word) rest

/-- The first hazardous flag among the words. -/
def matchFlags (words flags : List String) : Option FlagMatch :=
  matchFlagsFrom flags 0 "" words

end Footgun
