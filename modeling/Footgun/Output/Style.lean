import Footgun.Failure
import Footgun.Output.Color
import Footgun.Text.Blank
import Footgun.Text.Lowercase

/-! # Styles

The name of a style is a list of words: what is switched on or, behind `not`, off, a colour, a
colour for the background behind `on`, and the target of a link behind `link`. Two names are names
of the same style if they have the same normal form, which `styleName` gives: it has the words in a
fixed order and spells out abbreviations. Other names stand for themselves. -/

namespace Footgun.Output

/-! ## Effects -/

/-- What a style can switch on and off. -/
inductive Effect where
  /-- Heavy letters. -/
  | bold
  /-- Faint letters. -/
  | dim
  /-- Slanted letters. -/
  | italic
  /-- A line below. -/
  | underline
  /-- Slow blinking. -/
  | blink
  /-- Fast blinking. -/
  | blinkFast
  /-- Foreground and background exchanged. -/
  | reverse
  /-- Hidden letters. -/
  | conceal
  /-- A line through the letters. -/
  | strike
  /-- Two lines below. -/
  | underlineTwice
  /-- A frame. -/
  | frame
  /-- A circle. -/
  | encircle
  /-- A line above. -/
  | overline
  deriving DecidableEq, Repr

namespace Effect

/-- All effects, in the order of the normal form. -/
def all : List Effect := [
  bold, dim, italic, underline, blink, blinkFast, reverse, conceal, strike, underlineTwice, frame,
  encircle, overline]

/-- The word for an effect in the normal form. -/
def word : Effect → String
  | bold => "bold"
  | dim => "dim"
  | italic => "italic"
  | underline => "underline"
  | blink => "blink"
  | blinkFast => "blink2"
  | reverse => "reverse"
  | conceal => "conceal"
  | strike => "strike"
  | underlineTwice => "underline2"
  | frame => "frame"
  | encircle => "encircle"
  | overline => "overline"

/-- The abbreviation of an effect, if it has one. -/
def abbreviation? : Effect → Option String
  | bold => some "b"
  | dim => some "d"
  | italic => some "i"
  | underline => some "u"
  | reverse => some "r"
  | conceal => some "c"
  | strike => some "s"
  | underlineTwice => some "uu"
  | overline => some "o"
  | _ => none

/-- The effect that a word or an abbreviation stands for. -/
def ofWord? (text : String) : Option Effect :=
  all.find? fun effect => effect.word == text || effect.abbreviation? == some text

/-- Every effect is found by its word. -/
@[simp] theorem ofWord?_word (effect : Effect) : ofWord? effect.word = some effect := by
  cases effect <;> decide

end Effect

/-! ## Styles -/

/-- How text looks. -/
structure Style where
  /-- What is switched on and off, the latest first. -/
  switches : List (Effect × Bool)
  /-- The colour of the letters. -/
  color? : Option String
  /-- The colour behind the letters. -/
  background? : Option String
  /-- What the text is a link to. -/
  link? : Option String
  deriving DecidableEq, Repr

namespace Style

/-- The style that changes nothing. -/
def none : Style :=
  ⟨[], .none, .none, .none⟩

/-- The words for one effect, if it is switched. -/
def effectWords (style : Style) (effect : Effect) : List String :=
  match style.switches.lookup effect with
  | some true => [effect.word]
  | some false => ["not", effect.word]
  | .none => []

/-- The words of a style in the normal form. -/
def words (style : Style) : List String :=
  Effect.all.flatMap style.effectWords ++ style.color?.toList ++
    (style.background?.map (["on", ·])).getD [] ++ (style.link?.map (["link", ·])).getD []

/-- The name of a style in the normal form. -/
def text (style : Style) : String :=
  match style.words with
  | [] => "none"
  | words => " ".intercalate words

/-- A style with one more word: an effect that is switched on, or a colour. -/
def withWord (style : Style) (word : String) : Except ColorError Style :=
  match Effect.ofWord? word with
  | some effect => .ok { style with switches := (effect, true) :: style.switches }
  | .none => do
    checkColor word
    return { style with color? := some word }

/-- A style with an effect that is switched off. -/
def without (style : Style) (word : String) : Except ColorError Style :=
  match Effect.ofWord? word with
  | some effect => .ok { style with switches := (effect, false) :: style.switches }
  | .none => .error .unknown

/-- A style with a colour behind the letters. -/
def withBackground (style : Style) (color : String) : Except ColorError Style := do
  checkColor color
  return { style with background? := some color }

/-- The style that words give on top of another one. -/
def ofWords (style : Style) : List String → Except ColorError Style
  | [] => .ok style
  | [word] => style.withWord (Text.lowercase word)
  | word :: next :: later =>
    match Text.lowercase word with
    | "on" => do ofWords (← style.withBackground (Text.lowercase next)) later
    | "not" => do ofWords (← style.without next) later
    | "link" => ofWords { style with link? := some next } later
    | lower => do ofWords (← style.withWord lower) (next :: later)

/-- The style with a name. -/
def ofName (name : List Char) : Except ColorError Style :=
  match (Text.wordsFrom 0 name).map fun word => String.ofList word.text with
  | ["none"] => .ok none
  | words => ofWords none words

end Style

/-- The normal form of the name of a style. A name that is none is taken in lower case. -/
def styleName (name : List Char) : Except Failure String :=
  match Style.ofName name with
  | .ok style => .ok style.text
  | .error .unknown => .ok (Text.lowercase (Text.trim (String.ofList name)))
  | .error .badNumber => .error ⟨.badValue, "a part of a colour is no number"⟩

end Footgun.Output
