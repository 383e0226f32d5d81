import Footgun.Output.Markup
import Footgun.Text.Wrap

/-! # Tables and lines

The pieces of what a run prints: lines, a table without lines for findings, a table with lines and a
ruled heading for the rules in force. Everything fits into `screenWidth` cells; what does not is
wrapped. -/

namespace Footgun.Output

open Text (Glyph)

/-! ## Lines -/

/-- The number of cells of a printed line. -/
def screenWidth : Nat := 200

/-- A printed line. -/
def line (text : List Char) : List Char :=
  text ++ ['\n']

/-- Printed lines of markup: one, unless the text has newlines or is too long. -/
def markupLine (text : String) : Except Failure (List Char) := do
  return (Text.wrap .fold screenWidth (← plain text)).flatMap fun shown =>
    line (Text.chars (Text.clip screenWidth shown))

/-- A heading in the middle of a rule. -/
def heading (title : String) : List Char :=
  let shown := ' ' :: title.toList ++ [' ']
  let free := screenWidth - Text.width shown
  line (List.replicate (free / 2) '─' ++ shown ++ List.replicate (free - free / 2) '─')

/-! ## Columns -/

/-- The blanks before and behind the cells of a table. -/
structure Margin where
  /-- The number of blanks before. -/
  left : Nat
  /-- The number of blanks behind. -/
  right : Nat
  deriving DecidableEq, Repr

/-- The number of blanks of a margin. -/
def Margin.total (margin : Margin) : Nat :=
  margin.left + margin.right

/-- The largest of some numbers. -/
def largest (numbers : List Nat) : Nat :=
  numbers.foldl Nat.max 0

/-- All of some numbers together. -/
def total (numbers : List Nat) : Nat :=
  numbers.foldl Nat.add 0

/-- The characters that end a line for the measure of a cell. -/
def breaksLine (c : Char) : Bool :=
  [0xA, 0xB, 0xC, 0xD, 0x1C, 0x1D, 0x1E, 0x85, 0x2028, 0x2029].contains c.toNat

/-- The number of cells of the widest line of a text. -/
def textWidth (text : List Glyph) : Nat :=
  largest (((Text.chars text).splitOnP breaksLine).map Text.width)

/-- The width that a column of texts asks for, with its margin, where there is a limit. -/
def askedWidth (margin : Margin) (limit : Nat) (column : List (List Glyph)) : Nat :=
  Nat.min limit (margin.total + largest (column.map textWidth))

/-- The quotient of two numbers, rounded to the nearest number and a half to the even one. -/
def roundedQuotient (number divisor : Nat) : Nat :=
  let quotient := number / divisor
  let rest := 2 * (number % divisor)
  if divisor < rest || (rest = divisor && quotient % 2 = 1) then quotient + 1 else quotient

/-- Takes cells away from the columns of the largest width, the same number from each as far as it
can be shared out, and from none more than `most`. -/
def narrowLargest (width most : Nat) (excess count : Nat) : List Nat → List Nat
  | [] => []
  | first :: rest =>
    if first = width then
      let taken := Nat.min most (roundedQuotient excess count)
      (first - taken) :: narrowLargest width most (excess - taken) (count - 1) rest
    else first :: narrowLargest width most excess count rest

/-- Widths that go into a limit: the largest are narrowed down to the next smaller ones, until they
do. -/
def narrow (limit : Nat) : Nat → List Nat → List Nat
  | 0, widths => widths
  | fuel + 1, widths =>
    let excess := total widths - limit
    if excess = 0 then widths
    else
      let width := largest widths
      let next := largest (widths.filter (· ≠ width))
      let most := Nat.min excess (width - next)
      narrow limit fuel (narrowLargest width most excess (widths.count width) widths)

/-- The widths of columns, with their margins, that together go into a limit. -/
def columnWidths (margin : Margin) (limit : Nat) (columns : List (List (List Glyph))) : List Nat :=
  let asked := columns.map (askedWidth margin limit)
  narrow limit (total asked - limit) asked

/-! ## Rows -/

/-- The lines of a cell with its margin. -/
def cellLines (margin : Margin) (width : Nat) (text : List Glyph) : List (List Char) :=
  let room := width - margin.total
  (Text.wrap .ellipsis room text).map fun shown =>
    List.replicate margin.left ' ' ++ Text.chars (Text.fill room shown) ++
      List.replicate margin.right ' '

/-- The lines of a row, each of which has a part of every cell. Below the end of a cell there are
blanks. -/
def rowLines (margin : Margin) (widths : List Nat) (row : List (List Glyph)) :
    List (List (List Char)) :=
  let cells := List.zipWith (cellLines margin) widths row
  (List.range (largest (cells.map List.length))).map fun index =>
    List.zipWith (fun width lines => (lines[index]?).getD (List.replicate width ' ')) widths cells

/-! ## Tables -/

/-- The columns of rows that are as long as the first one. -/
def columnsOf {α : Type} : List (List α) → List (List α)
  | [] => []
  | [row] => row.map ([·])
  | row :: rows => List.zipWith List.cons row (columnsOf rows)

/-- The texts of a table of markup. It is read column by column. -/
def plainColumns (rows : List (List String)) : Except Failure (List (List (List Glyph))) :=
  (columnsOf rows).mapM (·.mapM plain)

/-- A table without lines: every cell is filled up to the width of its column, with two more
blanks. -/
def openTable (header : List String) (rows : List (List String)) : Except Failure (List Char) := do
  let columns ← plainColumns (header :: rows)
  let margin : Margin := ⟨0, 2⟩
  let widths := columnWidths margin screenWidth columns
  return (columnsOf columns).flatMap fun row =>
    (rowLines margin widths row).flatMap fun cells => line cells.flatten

/-- A ruled line: columns of one character, with a start, a divider and an end. -/
def ruledLine (widths : List Nat) (start fill divider stop : Char) : List Char :=
  let columns := widths.map fun width => List.replicate width fill
  line (start :: ([divider].intercalate columns) ++ [stop])

/-- A row between vertical lines. -/
def ruledRow (margin : Margin) (widths : List Nat) (bar : Char) (row : List (List Glyph)) :
    List Char :=
  (rowLines margin widths row).flatMap fun cells => line (bar :: ([bar].intercalate cells) ++ [bar])

/-- A table with lines around its cells and a heavy frame around its header. -/
def framedTable (header : List String) (rows : List (List String)) :
    Except Failure (List Char) := do
  let columns ← plainColumns (header :: rows)
  let margin : Margin := ⟨1, 1⟩
  let widths := columnWidths margin (screenWidth - (columns.length + 1)) columns
  match columnsOf columns with
  | [] => return []
  | top :: shown =>
    return ruledLine widths '┏' '━' '┳' '┓' ++ ruledRow margin widths '┃' top ++
      ruledLine widths '┡' '━' '╇' '┩' ++ shown.flatMap (ruledRow margin widths '│') ++
      ruledLine widths '└' '─' '┴' '┘'

end Footgun.Output
