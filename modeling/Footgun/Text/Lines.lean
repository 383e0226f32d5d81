/-! # Lines

`lines` cuts a text at its newlines, and `foldNewlines` turns the other ways to end a line, a
carriage return with or without a newline, into a newline. -/

namespace Footgun.Text

/-- The lines of a text: one more than it has newlines. -/
def lines (text : String) : List (List Char) :=
  text.toList.splitOn '\n'

/-- A text in which each carriage return, with the newline after it if there is one, is a
newline. -/
def foldNewlines : List Char → List Char
  | [] => []
  | '\r' :: '\n' :: rest => '\n' :: foldNewlines rest
  | '\r' :: rest => '\n' :: foldNewlines rest
  | c :: rest => c :: foldNewlines rest

end Footgun.Text
