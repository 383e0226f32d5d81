import Footgun.Json.Basic
import Footgun.Text.Quoted

/-! # Writing JSON

`Json.compact` writes a value on one line; `Json.pretty` gives every item and every field a line of
its own, indented by two blanks for each level. Both write strings in ASCII. -/

namespace Footgun.Json

/-- A unit of 16 bits as an escape sequence. -/
def unitEscape (unit : Nat) : List Char :=
  '\\' :: 'u' :: Text.hexDigits 4 unit

/-- One character of a string. -/
def escapeChar (c : Char) : List Char :=
  if c = '"' then ['\\', '"']
  else if c = '\\' then ['\\', '\\']
  else if c = '\n' then ['\\', 'n']
  else if c = '\r' then ['\\', 'r']
  else if c = '\t' then ['\\', 't']
  else if c = '\x08' then ['\\', 'b']
  else if c = '\x0c' then ['\\', 'f']
  else if 0x20 ≤ c.toNat && c.toNat ≤ 0x7E then [c]
  else if c.toNat < 0x10000 then unitEscape c.toNat
  else
    let rest := c.toNat - 0x10000
    unitEscape (0xD800 + rest / 0x400) ++ unitEscape (0xDC00 + rest % 0x400)

/-- A string between its quotes. -/
def writeString (text : String) : List Char :=
  '"' :: text.toList.flatMap escapeChar ++ ['"']

/-- An integer in decimal digits. -/
def writeInteger (value : Int) : List Char :=
  (toString value).toList

/-- How the parts of a list or an object are set apart. -/
structure Layout where
  /-- What stands before an item at a depth. -/
  opening : Nat → List Char
  /-- What stands before the next item at a depth. -/
  next : Nat → List Char
  /-- What stands before the closing bracket at a depth. -/
  closing : Nat → List Char

/-- Everything on one line. -/
def Layout.line : Layout :=
  ⟨fun _ => [], fun _ => [',', ' '], fun _ => []⟩

/-- The start of a line at a depth. -/
def newline (depth : Nat) : List Char :=
  '\n' :: List.replicate (2 * depth) ' '

/-- A line for every item. -/
def Layout.indented : Layout :=
  ⟨fun depth => newline (depth + 1), fun depth => ',' :: newline (depth + 1), newline⟩

mutual

/-- A value that stands at a depth. -/
def write (layout : Layout) (depth : Nat) : Json → List Char
  | null => "null".toList
  | bool value => (if value then "true" else "false").toList
  | int value => writeInteger value
  | real value => value.text
  | str value => writeString value
  | arr [] => ['[', ']']
  | arr (item :: items) =>
    '[' :: layout.opening depth ++ write layout (depth + 1) item ++ writeItems layout depth items ++
      layout.closing depth ++ [']']
  | obj [] => ['\x7b', '\x7d']
  | obj ((name, value) :: fields) =>
    '\x7b' :: layout.opening depth ++ writeString name ++ ':' :: ' ' ::
      write layout (depth + 1) value ++ writeFields layout depth fields ++ layout.closing depth ++
      ['\x7d']

/-- The items after the first. -/
def writeItems (layout : Layout) (depth : Nat) : List Json → List Char
  | [] => []
  | item :: items =>
    layout.next depth ++ write layout (depth + 1) item ++ writeItems layout depth items

/-- The fields after the first. -/
def writeFields (layout : Layout) (depth : Nat) : List (String × Json) → List Char
  | [] => []
  | (name, value) :: fields =>
    layout.next depth ++ writeString name ++ ':' :: ' ' :: write layout (depth + 1) value ++
      writeFields layout depth fields

end

/-- A value on one line. -/
def compact (value : Json) : String :=
  String.ofList (write Layout.line 0 value)

/-- A value with a line for every item and field. -/
def pretty (value : Json) : String :=
  String.ofList (write Layout.indented 0 value)

end Footgun.Json
