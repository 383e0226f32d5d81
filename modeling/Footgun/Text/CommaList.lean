import Footgun.Text.Blank

/-! # Comma lists

A list of items written in one text: the items are divided by commas, white space around an item
does not count, and blank items are dropped. -/

namespace Footgun.Text

/-- The items of a comma list. -/
def commaList (text : String) : List String :=
  ((text.toList.splitOn ',').map fun item => trim (String.ofList item)).filter (· ≠ "")

end Footgun.Text
