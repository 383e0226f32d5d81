import Footgun.Rule.Flags
import Footgun.Text.Blank
import Footgun.Text.Lowercase

/-! # Makefile lines

A Makefile is judged line by line, by its words alone. `hazardIn` looks for a word that names the
hazardous command, with a hazardous flag among the words that follow it up to the end of the shell
command. -/

namespace Footgun.Makefile

open Text (Placed)

/-- The words that end a shell command. -/
def separators : List (List Char) :=
  [[';'], ['&', '&'], ['|', '|'], ['|'], ['&']]

/-- Whether a character may stand before the command of a recipe line. -/
def isRecipePrefix (c : Char) : Bool :=
  c == '@' || c == '-' || c == '+'

/-- The words of the current shell command. A semicolon at the end of a word ends the command,
too. -/
def untilSeparator : List (List Char) → List (List Char)
  | [] => []
  | word :: rest =>
    if separators.contains word then []
    else if word.getLast? = some ';' then [(word.reverse.dropWhile (· == ';')).reverse]
    else word :: untilSeparator rest

/-- A hazardous command in a line. -/
structure Hit where
  /-- The hazardous flag. -/
  flag : String
  /-- The column of the command's name, counted from one in characters. -/
  column : Nat
  deriving DecidableEq, Repr

/-- The hit at a word, given the words that follow it. -/
def hitAt? (rule : Rule) (word : Placed) (following : List Placed) : Option Hit :=
  let name := word.text.dropWhile isRecipePrefix
  if Text.lowercase (String.ofList name) = Text.lowercase rule.name then
    let arguments := (untilSeparator (following.map (·.text))).map String.ofList
    (matchFlags arguments rule.flags).map fun found =>
      ⟨found.flag, word.start + (word.text.length - name.length) + 1⟩
  else none

/-- The first hit among the words. -/
def firstHit? (rule : Rule) : List Placed → Option Hit
  | [] => none
  | word :: following => (hitAt? rule word following).or (firstHit? rule following)

/-- Whether a line is a comment. -/
def isComment (line : List Char) : Bool :=
  (Text.trimStart line).head? == some '#'

/-- The first hazardous command in a line. -/
def hazardIn (rule : Rule) (line : List Char) : Option Hit :=
  if isComment line then none else firstHit? rule (Text.wordsFrom 0 line)

end Footgun.Makefile
