import Footgun.Text.Blank
import Footgun.Text.NameChar

/-! # Literals

The arguments of an action in markup are literals: numbers, quoted texts, the names `True`, `False`
and `None`, and tuples, sets and dictionaries of literals.

* `Literal.tokens` — the tokens of a text;
* `isLiteral` — whether a text is a literal or several with commas in between;
* `isAction` — whether a text is a name with literals in brackets behind it, or a literal. -/

namespace Footgun.Output

namespace Literal

/-! ## Tokens -/

/-- A token of a literal. -/
inductive Token where
  /-- A number, which may be imaginary. -/
  | number (imaginary : Bool)
  /-- A quoted text, which may stand for bytes. -/
  | quoted (bytes : Bool)
  /-- A name. -/
  | name (text : List Char)
  /-- A plus or minus sign. -/
  | sign
  /-- Three dots. -/
  | dots
  /-- A bracket, a comma or a colon. -/
  | mark (c : Char)
  /-- The end of a line outside of brackets. -/
  | lineEnd
  /-- The end of the text. -/
  | stop
  deriving DecidableEq, Repr

/-- Whether a character ends a line. -/
def endsLine (c : Char) : Bool :=
  c == '\n' || c == '\r'

/-- Whether a character can be part of a name or stands outside of ASCII, so that it cannot follow a
number. -/
def continues (c : Char) : Bool :=
  c.isAlphanum || c == '_' || 128 ≤ c.toNat

/-- Digits with single underscores between them, and what follows. There are none if the text does
not start with a digit. -/
def digitRun (isDigit : Char → Bool) : List Char → List Char × List Char
  | c :: '_' :: d :: rest =>
    if isDigit c && isDigit d then
      let (digits, following) := digitRun isDigit (d :: rest)
      (c :: digits, following)
    else if isDigit c then ([c], '_' :: d :: rest)
    else ([], c :: '_' :: d :: rest)
  | c :: rest =>
    if isDigit c then
      let (digits, following) := digitRun isDigit rest
      (c :: digits, following)
    else ([], c :: rest)
  | [] => ([], [])

/-- What follows an exponent, if there is one. -/
def dropExponent : List Char → List Char
  | e :: rest =>
    if e == 'e' || e == 'E' then
      let unsigned := match rest with
        | s :: later => if s == '+' || s == '-' then later else rest
        | [] => []
      match digitRun Char.isDigit unsigned with
      | ([], _) => e :: rest
      | (_, following) => following
    else e :: rest
  | [] => []

/-- The most digits that a decimal integer may have. -/
def maxDigits : Nat := 4300

/-- Whether digits are those of a decimal integer: not too many, and with a zero in front only if
all of them are zero. -/
def isInteger (digits : List Char) : Bool :=
  digits.length ≤ maxDigits && (digits.head? != some '0' || digits.all (· == '0'))

/-- A number in a base other than ten, behind its two leading characters: digits, an underscore
before each of them or not. -/
def basedNumber? (isDigit : Char → Bool) (text : List Char) : Option (Token × List Char) :=
  let unmarked := match text with
    | '_' :: rest => rest
    | _ => text
  match digitRun isDigit unmarked with
  | ([], _) => none
  | (_, following) => some (.number false, following)

/-- A decimal number and what follows. -/
def decimal? (text : List Char) : Option (Token × List Char) :=
  let (whole, afterWhole) := digitRun Char.isDigit text
  let (fraction, afterFraction) := match afterWhole with
    | '.' :: rest => digitRun Char.isDigit rest
    | _ => ([], afterWhole)
  let following := dropExponent afterFraction
  if whole.isEmpty && fraction.isEmpty then none
  else
    match following with
    | c :: rest =>
      if c == 'j' || c == 'J' then some (.number true, rest)
      else if following.length < afterWhole.length || isInteger whole then
        some (.number false, following)
      else none
    | [] => if 0 < afterWhole.length || isInteger whole then some (.number false, []) else none

/-- A number and what follows. A name cannot follow directly. -/
def number? (text : List Char) : Option (Token × List Char) :=
  let found := match text with
    | '0' :: base :: rest =>
      match base.toLower with
      | 'x' => basedNumber? (fun c => c.isDigit || ('a' ≤ c.toLower && c.toLower ≤ 'f')) rest
      | 'o' => basedNumber? (fun c => '0' ≤ c && c ≤ '7') rest
      | 'b' => basedNumber? (fun c => c == '0' || c == '1') rest
      | _ => decimal? text
    | _ => decimal? text
  found.filter fun result => !(result.2.head?.map continues).getD false

/-- What stands before an end made of some equal quotes, and what follows it. A backslash keeps the
character behind it. A single quote must be closed on its line. -/
def untilQuote? (quote : Char) (count : Nat) : List Char → Option (List Char × List Char)
  | [] => none
  | '\\' :: c :: rest => do
    let (inside, following) ← untilQuote? quote count rest
    return ('\\' :: c :: inside, following)
  | c :: rest =>
    if (List.replicate count quote).isPrefixOf (c :: rest) then some ([], rest.drop (count - 1))
    else if count = 1 && endsLine c then none
    else do
      let (inside, following) ← untilQuote? quote count rest
      return (c :: inside, following)

/-- Whether a text starts with a number of hexadecimal digits. -/
def startsWithHex (count : Nat) (text : List Char) : Bool :=
  (text.take count).length == count &&
    (text.take count).all fun c => c.isDigit || ('a' ≤ c.toLower && c.toLower ≤ 'f')

/-- Whether the eight hexadecimal digits at the start of a text are those of a code point. -/
def startsWithCodePoint (text : List Char) : Bool :=
  startsWithHex 8 text && (text.take 2).all (· == '0') &&
    (text[2]? == some '0' || (text[2]? == some '1' && text[3]? == some '0'))

/-- Whether every escape sequence in a quoted text is complete. -/
def escapesFit (bytes : Bool) : List Char → Bool
  | '\\' :: c :: rest =>
    (match c with
      | 'x' => startsWithHex 2 rest
      | 'u' => bytes || startsWithHex 4 rest
      | 'U' => bytes || startsWithCodePoint rest
      | 'N' => bytes || (rest.head? == some '\x7b' && rest.contains '\x7d')
      | _ => true) && escapesFit bytes rest
  | _ :: rest => escapesFit bytes rest
  | [] => true

/-- A quoted text and what follows. The letters in front say whether backslashes are kept as they
are and whether the text stands for bytes. -/
def quoted? (raw bytes : Bool) (text : List Char) : Option (Token × List Char) := do
  let (quote, count, inner) ← match text with
    | a :: b :: c :: rest =>
        if a = b && b = c then some (a, 3, rest) else some (a, 1, b :: c :: rest)
    | a :: rest => some (a, 1, rest)
    | [] => none
  let (inside, following) ← untilQuote? quote count inner
  if (raw || escapesFit bytes inside) && (!bytes || inside.all (·.toNat < 128)) then
    some (.quoted bytes, following)
  else none

/-- Whether a character is a quote. -/
def isQuote (c : Char) : Bool :=
  c == '\x27' || c == '\x22'

/-- A name, or a quoted text with letters in front, and what follows. -/
def word? (text : List Char) : Option (Token × List Char) :=
  let name := text.takeWhile fun c => Text.isNameChar c
  let following := text.drop name.length
  if name.isEmpty then none
  else if (following.head?.map isQuote).getD false then
    match name.map Char.toLower with
    | ['r'] => quoted? true false following
    | ['u'] => quoted? false false following
    | ['b'] => quoted? false true following
    | ['b', 'r'] => quoted? true true following
    | ['r', 'b'] => quoted? true true following
    | _ => none
  else some (.name name, following)

/-- The token at the start of a text that starts with no white space, and what follows. -/
def token? : List Char → Option (Token × List Char)
  | '.' :: '.' :: '.' :: rest => some (.dots, rest)
  | c :: rest =>
    if ['(', ')', '\x7b', '\x7d', ',', ':'].contains c then some (.mark c, rest)
    else if c == '+' || c == '-' then some (.sign, rest)
    else if isQuote c then quoted? false false (c :: rest)
    else if c.isDigit || c == '.' then number? (c :: rest)
    else word? (c :: rest)
  | [] => none

/-- How many brackets are open after a token. -/
def depthAfter (depth : Nat) : Token → Nat
  | .mark '(' | .mark '\x7b' => depth + 1
  | .mark ')' | .mark '\x7d' => depth - 1
  | _ => depth

/-- The tokens of a text, if it has nothing else in it, given the number of open brackets. Ends of
lines count only outside of brackets, and comments nowhere. -/
def tokens (depth : Nat) (text : List Char) : Option (List Token) :=
  match text with
  | [] => some [.stop]
  | c :: rest =>
    if c == ' ' || c == '\t' || c == '\x0c' then tokens depth rest
    else if endsLine c then
      if depth = 0 then (tokens depth rest).map (.lineEnd :: ·) else tokens depth rest
    else if c == '#' then tokens depth (rest.dropWhile (!endsLine ·))
    else if c == '\\' && (rest.head?.map endsLine).getD false then tokens depth (rest.drop 1)
    else
      match token? (c :: rest) with
      | some (token, following) =>
        if following.length ≤ rest.length then
          (tokens (depthAfter depth token) following).map (token :: ·)
        else none
      | none => none
termination_by text.length
decreasing_by
  all_goals simp only [List.length_cons]
  all_goals try omega
  · have := (List.dropWhile_suffix (l := rest) (!endsLine ·)).length_le
    omega
  · simp only [List.length_drop]
    omega

/-! ## Structure -/

/-- What a literal is, as far as it matters for what it can be part of. -/
inductive Kind where
  /-- A real number without a sign. -/
  | real
  /-- An imaginary number without a sign. -/
  | imaginary
  /-- A real number with a sign. -/
  | signed
  /-- Any other literal that can be a key. -/
  | fixed
  /-- A literal that cannot be a key. -/
  | changeable
  deriving DecidableEq, Repr

/-- A tuple of literals can be a key if all of them can. -/
def Kind.tuple (kinds : List Kind) : Kind :=
  if kinds.contains .changeable then .changeable else .fixed

/-- What follows quoted texts of one sort. Those of the other sort must not follow. -/
def dropQuoted? (bytes : Bool) : List Token → Option (List Token)
  | .quoted other :: rest => if other = bytes then dropQuoted? bytes rest else none
  | tokens => some tokens

mutual

/-- A number, a quoted text, a name or something in brackets. -/
def atom? : Nat → List Token → Option (Kind × List Token)
  | 0, _ => none
  | fuel + 1, tokens =>
    match tokens with
    | .number imaginary :: rest => some (if imaginary then .imaginary else .real, rest)
    | .quoted bytes :: rest => (dropQuoted? bytes rest).map fun following => (.fixed, following)
    | .dots :: rest => some (.fixed, rest)
    | .name ['s', 'e', 't'] :: .mark '(' :: .mark ')' :: rest => some (.changeable, rest)
    | .name text :: rest =>
      if ["True", "False", "None"].contains (String.ofList text) then some (.fixed, rest) else none
    | .mark '(' :: .mark ')' :: rest => some (.fixed, rest)
    | .mark '(' :: rest => do
      let (kinds, comma, following) ← items? fuel (.mark ')') rest
      match kinds, comma with
      | [kind], false => some (kind, following)
      | kinds, _ => some (.tuple kinds, following)
    | .mark '\x7b' :: .mark '\x7d' :: rest => some (.changeable, rest)
    | .mark '\x7b' :: rest =>
      match items? fuel (.mark '\x7d') rest with
      | some (kinds, _, following) =>
        if kinds.contains .changeable then none else some (.changeable, following)
      | none => (pairs? fuel rest).map fun following => (.changeable, following)
    | _ => none

/-- A literal with or without a sign, or the sum or difference of a real and an imaginary number. -/
def sum? : Nat → List Token → Option (Kind × List Token)
  | 0, _ => none
  | fuel + 1, tokens => do
    let (left, rest) ← match tokens with
      | .sign :: later => do
        let (kind, rest) ← atom? fuel later
        match kind with
        | .real => some (Kind.signed, rest)
        | .imaginary => some (Kind.fixed, rest)
        | _ => none
      | _ => atom? fuel tokens
    match rest with
    | .sign :: later =>
      let (right, following) ← atom? fuel later
      if (left = .real || left = .signed) && right = .imaginary then some (.fixed, following)
      else none
    | _ => some (left, rest)

/-- Literals with commas between them up to a closing token, whether there is a comma at all, and
what follows. -/
def items? : Nat → Token → List Token → Option (List Kind × Bool × List Token)
  | 0, _, _ => none
  | fuel + 1, close, tokens => do
    let (first, rest) ← sum? fuel tokens
    match rest with
    | .mark ',' :: token :: later =>
      if token = close then some ([first], true, later)
      else
        let (others, _, following) ← items? fuel close (token :: later)
        some (first :: others, true, following)
    | token :: later => if token = close then some ([first], false, later) else none
    | [] => none

/-- What follows the pairs of a dictionary and its closing bracket. -/
def pairs? : Nat → List Token → Option (List Token)
  | 0, _ => none
  | fuel + 1, tokens => do
    let (key, rest) ← sum? fuel tokens
    if key = .changeable then none
    else
      match rest with
      | .mark ':' :: later =>
        let (_, following) ← sum? fuel later
        match following with
        | .mark '\x7d' :: after => some after
        | .mark ',' :: .mark '\x7d' :: after => some after
        | .mark ',' :: after => pairs? fuel after
        | _ => none
      | _ => none

end

/-- Tokens without the ends of lines before and after everything else. -/
def trimLineEnds (tokens : List Token) : List Token :=
  let body := (tokens.dropWhile (· = .lineEnd)).filter (· ≠ .stop)
  (body.reverse.dropWhile (· = .lineEnd)).reverse ++ [.stop]

end Literal

/-- Whether a text is a literal, or several literals with commas between them. -/
def isLiteral (text : List Char) : Bool :=
  match Literal.tokens 0 text with
  | none => false
  | some tokens =>
    let trimmed := Literal.trimLineEnds tokens
    match Literal.items? (4 * trimmed.length + 4) .stop trimmed with
    | some (_, _, []) => true
    | _ => false

/-- What stands in brackets behind a name, with the brackets, if a text has this form. Without
brackets there is nothing. -/
def actionArguments? (text : List Char) : Option (List Char) :=
  match text.dropWhile fun c => Text.isNameChar c || c == '.' with
  | [] => some []
  | '(' :: rest =>
    if rest.getLast? = some ')' && !rest.contains '\n' then some ('(' :: rest) else none
  | _ => none

/-- Whether a text is an action: a name with literals in brackets behind it or without any, or else
a literal. -/
def isAction (text : List Char) : Bool :=
  let trimmed := Text.trimEnd (Text.trimStart text)
  match actionArguments? trimmed with
  | some [] => true
  | some arguments => isLiteral arguments
  | none => isLiteral trimmed

end Footgun.Output
