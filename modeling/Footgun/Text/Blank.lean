import Footgun.Text.Range

/-! # White space

`isBlank` is the class of white space characters. `trim` removes white space at both ends of a text,
and `wordsFrom` cuts a text into its maximal runs of other characters, each with the place where it
starts. -/

namespace Footgun.Text

/-- The white space characters, in ascending order. -/
def blankRanges : Ranges := [
  (0x9, 0xD), (0x1C, 0x20), (0x85, 0x85), (0xA0, 0xA0), (0x1680, 0x1680), (0x2000, 0x200A),
  (0x2028, 0x2029), (0x202F, 0x202F), (0x205F, 0x205F), (0x3000, 0x3000)]

/-- Whether a character is white space. -/
def isBlank (c : Char) : Bool :=
  blankRanges.covers c

/-- A text without the white space at its start. -/
def trimStart (text : List Char) : List Char :=
  text.dropWhile isBlank

/-- A text without the white space at its end. -/
def trimEnd (text : List Char) : List Char :=
  (text.reverse.dropWhile isBlank).reverse

/-- A text without the white space at its ends. -/
def trim (text : String) : String :=
  String.ofList (trimEnd (trimStart text.toList))

/-! ## Words -/

/-- A word and the place of its first character. -/
structure Placed where
  /-- The number of characters before the word. -/
  start : Nat
  /-- The characters of the word. -/
  text : List Char
  deriving DecidableEq, Repr

/-- The words of a text whose first character has the given place. A character joins the word that
starts right after it, and otherwise begins a word of its own. -/
def wordsFrom (place : Nat) : List Char → List Placed
  | [] => []
  | c :: rest =>
    if isBlank c then wordsFrom (place + 1) rest
    else
      match wordsFrom (place + 1) rest with
      | word :: words =>
        if word.start = place + 1 then ⟨place, c :: word.text⟩ :: words
        else ⟨place, [c]⟩ :: word :: words
      | [] => [⟨place, [c]⟩]

end Footgun.Text
