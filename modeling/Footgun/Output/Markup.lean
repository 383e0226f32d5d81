import Footgun.Failure
import Footgun.Output.Literal
import Footgun.Output.Pictograph.Basic
import Footgun.Output.Style
import Footgun.Text.Blank
import Footgun.Text.Lowercase
import Footgun.Text.Wrap

/-! # Markup

Printed texts are read as markup: `[name]` opens a style, `[/name]` and `[/]` close one, a backslash
before a bracket keeps it, and `:code:` stands for a pictograph. Closing what is not open is a
failure, and so is closing an action whose arguments are no literals.

* `pieces` — the stretches and tags of a text;
* `plain` — what is seen of a text when styles are not shown. -/

namespace Footgun.Output

open Text (Glyph)

/-! ## Pictographs -/

/-- The ends of a code that choose between a picture and a sign, with the selectors they stand
for. -/
def variants : List (List Char × Char) := [
  ("-emoji".toList, '\ufe0f'), ("-text".toList, '\ufe0e')]

/-- A code without the end that chooses a variant, and the selector. -/
def splitVariant (code : List Char) : List Char × List Char :=
  match variants.find? (·.1.isSuffixOf code) with
  | some (ending, selector) => (code.take (code.length - ending.length), [selector])
  | none => (code, [])

/-- What a code stands for, whatever its case. -/
def decoded? (code : List Char) : Option (List Char) :=
  let (name, selector) := splitVariant code
  (pictograph? (Text.lowercase (String.ofList name))).map (· ++ selector)

/-- The code between two colons, and what follows them. -/
def splitCode? (text : List Char) : Option (List Char × List Char) :=
  let code := text.takeWhile fun c => c ≠ ':' && !Text.isBlank c
  match text.drop code.length with
  | ':' :: rest => some (code, rest)
  | _ => none

/-- What follows a code is shorter than the text that it is cut from. -/
theorem length_lt_of_splitCode? {text code rest : List Char}
    (h : splitCode? text = some (code, rest)) : rest.length < text.length := by
  unfold splitCode? at h
  simp only at h
  split at h
  · rename_i hdrop
    have := congrArg List.length hdrop
    simp only [List.length_drop, List.length_cons] at this
    simp only [Option.some.injEq, Prod.mk.injEq] at h
    rw [← h.2]
    omega
  · simp at h

/-- A text with its codes replaced. -/
def replaceCodes (text : List Char) : List Char :=
  match text with
  | [] => []
  | ':' :: following =>
    match _h : splitCode? following with
    | some (code, rest) =>
      (decoded? code).getD (':' :: code ++ [':']) ++ replaceCodes rest
    | none => ':' :: replaceCodes following
  | c :: rest => c :: replaceCodes rest
termination_by text.length
decreasing_by
  all_goals simp only [List.length_cons]
  all_goals try omega
  all_goals
    have := length_lt_of_splitCode? _h
    omega

/-! ## Tags -/

/-- Whether a character can start a tag. -/
def startsTag (c : Char) : Bool :=
  ('a' ≤ c && c ≤ 'z') || c == '#' || c == '/' || c == '@'

/-- The tag after an opening bracket, and what follows its closing bracket. -/
def splitTag? (text : List Char) : Option (List Char × List Char) :=
  match text with
  | c :: _ =>
    if startsTag c then
      let tag := text.takeWhile fun c => c ≠ ']' && c ≠ '['
      match text.drop tag.length with
      | ']' :: rest => some (tag, rest)
      | _ => none
    else none
  | [] => none

/-- What follows a tag is shorter than the text that it is cut from. -/
theorem length_lt_of_splitTag? {text tag rest : List Char}
    (h : splitTag? text = some (tag, rest)) : rest.length < text.length := by
  unfold splitTag? at h
  split at h
  · split at h
    · simp only at h
      split at h
      · rename_i hdrop
        have := congrArg List.length hdrop
        simp only [List.length_drop, List.length_cons] at this
        simp only [Option.some.injEq, Prod.mk.injEq] at h
        rw [← h.2]
        simp only [List.length_cons]
        omega
      · simp at h
    · simp at h
  · simp at h

/-! ## Stretches -/

/-- Whether a character moves the cursor and is not printed. -/
def isCursorControl (c : Char) : Bool :=
  [0x7, 0x8, 0xB, 0xC, 0xD].contains c.toNat

/-- A text without the backslashes before brackets. -/
def unescape : List Char → List Char
  | '\\' :: '[' :: rest => '[' :: unescape rest
  | c :: rest => c :: unescape rest
  | [] => []

/-- What is seen of a stretch of text without tags. -/
def seen (text : List Char) : List Char :=
  (replaceCodes (unescape text)).filter (!isCursorControl ·)

/-- A piece of markup. -/
inductive Piece where
  /-- A stretch of text. -/
  | stretch (text : List Char)
  /-- A tag, with the number of characters before it. -/
  | tag (position : Nat) (content : List Char)
  deriving DecidableEq, Repr

/-- The pieces of a text at a position, given the stretch before it, nearest character first. Of the
backslashes before a tag each pair stands for one, and an odd one keeps the tag. -/
def piecesFrom (position : Nat) (before : List Char) (text : List Char) : List Piece :=
  match text with
  | [] => [.stretch before.reverse]
  | '[' :: following =>
    match _h : splitTag? following with
    | none => piecesFrom (position + 1) ('[' :: before) following
    | some (tag, rest) =>
      let backslashes := (before.takeWhile (· == '\\')).length
      let here := if backslashes % 2 = 1 then .stretch ('[' :: tag ++ [']']) else .tag position tag
      .stretch (before.drop backslashes).reverse ::
        .stretch (List.replicate (backslashes / 2) '\\') ::
        here :: piecesFrom (position + tag.length + 2) [] rest
  | c :: rest => piecesFrom (position + 1) (c :: before) rest
termination_by text.length
decreasing_by
  all_goals simp only [List.length_cons]
  all_goals try omega
  have := length_lt_of_splitTag? _h
  omega

/-- The pieces of a text. -/
def pieces (text : List Char) : List Piece :=
  piecesFrom 0 [] text

/-! ## Styles that are open -/

/-- A tag that has opened a style. -/
structure OpenTag where
  /-- The name of the style. -/
  name : String
  /-- What stands behind the equals sign. -/
  parameters : List Char
  deriving DecidableEq, Repr

namespace OpenTag

/-- Whether a tag can be closed: if it is that of an action, its parameters must be those of one. -/
def isSound (tag : OpenTag) : Bool :=
  tag.name.toList.head? != some '@' || tag.parameters.isEmpty || isAction tag.parameters

/-- The open tags without one of them. -/
def close (tag : OpenTag) (others : List OpenTag) : Except Failure (List OpenTag) :=
  if tag.isSound then .ok others
  else .error ⟨.badMarkup, s!"error parsing {Text.quoted (String.ofList tag.parameters)}"⟩

end OpenTag

/-- The open tags after a tag at a position, the innermost first. -/
def applyTag (opened : List OpenTag) (position : Nat) (tag : List Char) :
    Except Failure (List OpenTag) :=
  let name := tag.takeWhile (· ≠ '=')
  match name with
  | '/' :: closed =>
    if (Text.trimStart closed).isEmpty then
      match opened with
      | first :: others => first.close others
      | [] => .error ⟨.badMarkup, s!"closing tag '[/]' at position {position} has nothing to close"⟩
    else do
      let style ← styleName closed
      match opened.find? (·.name == style) with
      | some found => found.close (opened.eraseP (·.name == style))
      | none =>
        let shown := String.ofList ('[' :: tag ++ [']'])
        .error ⟨.badMarkup,
          s!"closing tag '{shown}' at position {position} doesn't match any open tag"⟩
  | _ => do
    return ⟨← styleName name, tag.drop (name.length + 1)⟩ :: opened

/-- The glyphs of a text in one style. The first of them starts a run, if it should. -/
def glyphs (startsRun styled : Bool) : List Char → List Glyph
  | [] => []
  | c :: rest => ⟨c, startsRun, styled⟩ :: rest.map fun later => ⟨later, false, styled⟩

/-- The glyphs are those of the characters. -/
@[simp] theorem chars_glyphs (startsRun styled : Bool) (text : List Char) :
    Text.chars (glyphs startsRun styled text) = text := by
  cases text with
  | nil => rfl
  | cons c rest =>
    simp only [glyphs, Text.chars, List.map_cons, List.map_map, Function.comp_def,
      List.map_id_fun', id]

/-- What is seen of pieces of markup, given the open tags and whether a tag stands right before
them. -/
def plainFrom (opened : List OpenTag) (afterTag : Bool) : List Piece → Except Failure (List Glyph)
  | [] => .ok []
  | .stretch text :: rest => do
    let shown := glyphs afterTag (!opened.isEmpty) (seen text)
    return shown ++ (← plainFrom opened (afterTag && shown.isEmpty) rest)
  | .tag position tag :: rest => do plainFrom (← applyTag opened position tag) true rest

/-- What is seen of a text. -/
def plain (text : String) : Except Failure (List Glyph) :=
  plainFrom [] false (pieces text.toList)

end Footgun.Output
