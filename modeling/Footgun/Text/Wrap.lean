import Footgun.Text.Blank
import Footgun.Text.Width

/-! # Wrapping

A text is laid out in lines that fit into a number of cells. Lines break between words; a word that
is too long for any line is cut to pieces or cropped, as a `Fit` says. A text is a list of glyphs
here: characters that know where a run of one style starts. Main definitions:

* `graphemes` — the parts of a text that cannot be cut;
* `crop` — the start of a text that fills a number of cells;
* `expandTabs` — a text with blanks in place of its tabs;
* `wrap` — the lines of a text;
* `clip` — a line that takes no more than a number of cells;
* `fill` — a line that fills a number of cells. -/

namespace Footgun.Text

/-! ## Glyphs -/

/-- A character of a text in which styles change. -/
structure Glyph where
  /-- The character. -/
  char : Char
  /-- Whether a run of characters of one style starts with it. -/
  startsRun : Bool
  /-- Whether it has a style. -/
  styled : Bool
  deriving DecidableEq, Repr

/-- A glyph within a run that has another character and looks like this one. -/
def Glyph.following (glyph : Glyph) (c : Char) : Glyph :=
  { glyph with char := c, startsRun := false }

/-- The characters of a text. -/
def chars (text : List Glyph) : List Char :=
  text.map Glyph.char

/-- A character in place of the glyph at a place of a text. Behind the end of the text it has no
style. -/
def putAt (text : List Glyph) (place : Nat) (c : Char) : Glyph :=
  match text[place]? with
  | some glyph => { glyph with char := c }
  | none => ⟨c, (text.getLast?.map Glyph.styled).getD false, false⟩

/-- A text with some blanks behind it. -/
def appendBlanks (text : List Glyph) (count : Nat) : List Glyph :=
  match count with
  | 0 => text
  | more + 1 =>
    let first := putAt text text.length ' '
    text ++ first :: List.replicate more (first.following ' ')

/-- The runs of a text. -/
def runs : List Glyph → List (List Glyph)
  | [] => []
  | glyph :: rest =>
    match runs rest with
    | [] => [[glyph]]
    | run :: later =>
      if (run.head?.map Glyph.startsRun).getD false then [glyph] :: run :: later
      else (glyph :: run) :: later

/-- The runs together are the text. -/
@[simp] theorem flatten_runs (text : List Glyph) : (runs text).flatten = text := by
  induction text with
  | nil => rfl
  | cons glyph rest ih =>
    rw [runs]
    split
    · rename_i h
      rw [h] at ih
      rw [← ih]
      rfl
    · rename_i h
      rw [h] at ih
      split
      · rw [List.flatten_cons, ih]
        rfl
      · rw [← ih]
        rfl

/-! ## Parts that cannot be cut -/

/-- Characters that are shown together, and the cells that they take. -/
structure Grapheme where
  /-- The characters. -/
  text : List Char
  /-- The number of cells. -/
  cells : Nat
  deriving DecidableEq, Repr

/-- A part with more characters that take no cell of their own. -/
def Grapheme.append (part : Grapheme) (more : List Char) : Grapheme :=
  { part with text := part.text ++ more }

/-- The parts of a text behind some part: `last?` is the last character that takes a cell and has
not been made wide. A joiner takes in the character behind it, the selector of pictures makes a sign
wide, and characters that take no cell belong to the part before them. -/
def graphemesAfter (part : Grapheme) (last? : Option Char) : List Char → List Grapheme
  | [] => [part]
  | c :: rest =>
    if c = joiner then
      match rest with
      | [] => [part.append [c]]
      | joined :: later => graphemesAfter (part.append [c, joined]) last? later
    else if c = pictureSelector then
      if (last?.map isPictorial).getD false then
        graphemesAfter ⟨part.text ++ [c], part.cells + 1⟩ none rest
      else graphemesAfter (part.append [c]) last? rest
    else if cells c = 0 then graphemesAfter (part.append [c]) last? rest
    else part :: graphemesAfter ⟨[c], cells c⟩ (some c) rest

/-- The parts of a text. -/
def graphemes : List Char → List Grapheme
  | [] => []
  | c :: rest =>
    if c = joiner || c = pictureSelector || cells c = 0 then graphemesAfter ⟨[c], 0⟩ none rest
    else graphemesAfter ⟨[c], cells c⟩ (some c) rest

/-- How many characters of parts go into a number of cells, and whether half of a wide part would go
into them, too. -/
def cropSize (room : Nat) : List Grapheme → Nat × Bool
  | [] => (0, false)
  | part :: rest =>
    if room = 0 then (0, false)
    else if part.cells ≤ room then
      let (size, half) := cropSize (room - part.cells) rest
      (part.text.length + size, half)
    else (0, true)

/-- The start of a text that fills a number of cells. A blank stands for the half of a wide part. -/
def crop (room : Nat) (text : List Glyph) : List Glyph :=
  let (size, half) := cropSize room (graphemes (chars text))
  text.take size ++ if half then [putAt text size ' '] else []

/-- The pieces of parts, each of which fits into a number of cells, given the piece at work and its
width. -/
def chopParts (room : Nat) (piece : List Char) (used : Nat) : List Grapheme → List (List Char)
  | [] => if used = 0 then [] else [piece]
  | part :: rest =>
    if room < used + part.cells then piece :: chopParts room part.text part.cells rest
    else chopParts room (piece ++ part.text) (used + part.cells) rest

/-- The pieces of a text, each of which fits into a number of cells. -/
def chop (room : Nat) (text : List Char) : List (List Char) :=
  chopParts room [] 0 (graphemes text)

/-! ## Tabs -/

/-- The distance between two tab stops. -/
def tabSize : Nat := 8

/-- The blanks that fill a text up to the next tab stop. -/
def tabFill (column : Nat) : Nat :=
  (tabSize - column % tabSize) % tabSize

/-- A line with blanks in place of its tabs, given the column where a stretch without tabs starts
and what has been read of it, nearest glyph first. -/
def expandTabsFrom (column : Nat) (stretch : List Glyph) : List Glyph → List Glyph
  | [] => stretch.reverse
  | glyph :: rest =>
    if glyph.char = '\t' then
      let shown := (({ glyph with char := ' ' } : Glyph) :: stretch).reverse
      let column := column + width (chars shown)
      shown ++ List.replicate (tabFill column) (glyph.following ' ') ++
        expandTabsFrom (column + tabFill column) [] rest
    else expandTabsFrom column (glyph :: stretch) rest

/-- A line with blanks in place of its tabs. -/
def expandTabs (line : List Glyph) : List Glyph :=
  expandTabsFrom 0 [] line

/-! ## Breaks -/

/-- What becomes of a text that is too long. -/
inductive Fit where
  /-- It is cut to pieces. -/
  | fold
  /-- It is cropped, and an ellipsis shows that. -/
  | ellipsis
  deriving DecidableEq, Repr

/-- The words of a text, each with the white space behind it and the first one also with the white
space before it. -/
def paddedWords (text : List Char) : List (List Char) :=
  let starts := (wordsFrom 0 text).map (·.start)
  let bounds := (starts.drop 1) ++ [text.length]
  (List.zip (0 :: starts.drop 1) bounds).map fun (start, stop) =>
    (text.drop start).take (stop - start)

/-- Where pieces start that follow each other from a place on. The start of the text is not told. -/
def startsOf (place : Nat) : List (List Char) → List Nat
  | [] => []
  | piece :: rest => (if place = 0 then [] else [place]) ++ startsOf (place + piece.length) rest

/-- The places where lines break before or within words, given the place of the first word and the
cells that are taken on its line. -/
def breaks (fit : Fit) (room : Nat) (place used : Nat) : List (List Char) → List Nat
  | [] => []
  | word :: rest =>
    let next := place + word.length
    let size := width (trimEnd word)
    if used + size ≤ room then breaks fit room next (used + width word) rest
    else if room < size then
      match fit with
      | .fold =>
        let pieces := chop room word
        startsOf place pieces ++ breaks fit room next ((pieces.getLast?.map width).getD used) rest
      | .ellipsis => startsOf place [word] ++ breaks fit room next (width word) rest
    else if used = 0 || place = 0 then breaks fit room next used rest
    else place :: breaks fit room next (width word) rest

/-- The stretches of a text between places in ascending order. -/
def cutAt (text : List Glyph) (start : Nat) : List Nat → List (List Glyph)
  | [] => [text]
  | place :: rest => text.take (place - start) :: cutAt (text.drop (place - start)) place rest

/-- The stretches together are the text. -/
@[simp] theorem flatten_cutAt (text : List Glyph) (start : Nat) (places : List Nat) :
    (cutAt text start places).flatten = text := by
  induction places generalizing text start with
  | nil => simp only [cutAt, List.flatten_cons, List.flatten_nil, List.append_nil]
  | cons place rest ih => rw [cutAt, List.flatten_cons, ih, List.take_append_drop]

/-! ## Lines -/

/-- A text without as much of the white space at its end as it has more characters than there are
cells. -/
def dropExcess (room : Nat) (text : List Glyph) : List Glyph :=
  let spare := text.length - (trimEnd (chars text)).length
  text.take (text.length - Nat.min spare (text.length - room))

/-- A line that fits, cropped if it is too wide. -/
def truncate (fit : Fit) (room : Nat) (text : List Glyph) : List Glyph :=
  if width (chars text) ≤ room then text
  else
    match fit with
    | .fold => crop room text
    | .ellipsis =>
      let start := crop (room - 1) text
      start ++ [putAt text start.length '…']

/-- The lines that a text without newlines is laid out in. -/
def wrapLine (fit : Fit) (room : Nat) (line : List Glyph) : List (List Glyph) :=
  let expanded := expandTabs line
  (cutAt expanded 0 (breaks fit room 0 0 (paddedWords (chars expanded)))).map fun part =>
    truncate fit room (dropExcess room part)

/-- The lines that a text is laid out in. -/
def wrap (fit : Fit) (room : Nat) (text : List Glyph) : List (List Glyph) :=
  (text.splitOnP (·.char == '\n')).flatMap (wrapLine fit room)

/-! ## Filled lines -/

/-- A text filled up with blanks to a number of cells. -/
def padTo (room : Nat) (text : List Glyph) : List Glyph :=
  appendBlanks text (room - width (chars text))

/-- Runs cropped to a number of cells, each of them measured by itself. -/
def cropRuns (room : Nat) : List (List Glyph) → List Glyph
  | [] => []
  | run :: rest =>
    let size := width (chars run)
    if size < room then run ++ cropRuns (room - size) rest
    else if size = room then run
    else crop room run

/-- The number of cells of runs, each of them measured by itself. -/
def runsWidth (parts : List (List Glyph)) : Nat :=
  parts.foldl (fun sum run => sum + width (chars run)) 0

/-- A line cropped to a number of cells, if its runs take more. -/
def clip (room : Nat) (line : List Glyph) : List Glyph :=
  if room < runsWidth (runs line) then cropRuns room (runs line) else line

/-- A line that fills a number of cells. It is filled up as a whole first and then run by run: what
joins or widens characters does so only within a run. -/
def fill (room : Nat) (line : List Glyph) : List Glyph :=
  let padded := padTo room line
  appendBlanks (clip room padded) (room - runsWidth (runs padded))

end Footgun.Text
