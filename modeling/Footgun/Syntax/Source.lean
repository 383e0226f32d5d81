import Footgun.Syntax.Tree
import Footgun.Text.Utf8

/-! # Source text

The spans of a syntax tree are offsets into the bytes of a text. `Source` holds these bytes; it
gives the text of a node and the position of an offset. -/

namespace Footgun.Syntax

/-- A place in a text, counted from one. -/
structure Position where
  /-- The line. -/
  line : Int
  /-- The column, in bytes for a syntax tree. -/
  column : Int
  deriving DecidableEq, Repr

/-- The bytes that a syntax tree is about. -/
structure Source where
  /-- The text in UTF-8. -/
  bytes : ByteArray

namespace Source

/-- The source of a text. -/
def ofText (text : String) : Source :=
  ⟨text.toByteArray⟩

/-- The bytes of a node, as far as they are there. -/
def span (source : Source) (tree : Tree) : ByteArray :=
  source.bytes.extract tree.label.start tree.label.stop

/-- The text of a node, if its span holds whole characters. -/
def text? (source : Source) (tree : Tree) : Option String :=
  Text.decode? (source.span tree)

/-- The text of a node without the bytes of broken characters. -/
def textLossy (source : Source) (tree : Tree) : String :=
  Text.decodeLossy (source.span tree)

/-- One more byte: a newline starts a line, and any other byte moves on by a column. -/
def advance (place : Nat × Nat) (byte : UInt8) : Nat × Nat :=
  if byte = 10 then (place.1 + 1, 0) else (place.1, place.2 + 1)

/-- The number of newlines before an offset, and the distance from the last of them. -/
def place (source : Source) (offset : Nat) : Nat × Nat :=
  let before := (source.bytes.extract 0 offset).data.toList.foldl advance (0, 0)
  (before.1, before.2 + (offset - source.bytes.size))

/-- The position of an offset. -/
def position (source : Source) (offset : Nat) : Position :=
  ⟨(source.place offset).1 + 1, (source.place offset).2 + 1⟩

end Source

/-- The index that an offset denotes in a sequence of a given size. An offset below zero counts back
from the end. -/
def wrapOffset (size : Nat) (offset : Int) : Nat :=
  if offset < 0 then (size + offset).toNat else offset.toNat

/-- The bytes between two offsets. -/
def cut (bytes : ByteArray) (start stop : Int) : ByteArray :=
  bytes.extract (wrapOffset bytes.size start) (wrapOffset bytes.size stop)

end Footgun.Syntax
