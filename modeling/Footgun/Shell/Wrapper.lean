import Footgun.Command.Basic
import Footgun.Text.Digit
import Footgun.Text.Letter

/-! # Wrapper commands

Some programs run another program that is given among their arguments, as `sudo rm` does. `unwrap`
peels such wrappers off until the program itself is reached. -/

namespace Footgun.Shell

/-- The programs that run another program. -/
def wrappers : List String := [
  "sudo", "time", "nice", "nohup", "xargs", "env", "strace", "timeout", "watch", "ionice", "chroot",
  "su", "runuser", "doas", "pkexec", "sg", "newgrp", "command", "exec"]

/-- The options of wrappers that take the next word as their value. -/
def valueOptions : List String := [
  "-u", "-n", "-c", "-e", "-E", "-H", "-p", "-g", "-s", "-k", "-I", "-L", "-P"]

/-- Whether a text is a run of digits. -/
def isDigits (text : List Char) : Bool :=
  text ≠ [] && text.all Text.isDigit

/-- Whether a text is a priority or a duration: digits, perhaps with one point, perhaps with units
of time behind them. -/
def isQuantity (text : List Char) : Bool :=
  isDigits text ||
    isDigits (((text.reverse.dropWhile ("smhd".toList.contains ·)).reverse).erase '.')

/-- Whether a text can name a program: it starts with a letter or is written as a path. -/
def startsProgram (text : List Char) : Bool :=
  match text with
  | '/' :: _ => true
  | '.' :: '/' :: _ => true
  | c :: _ => Text.isLetter c
  | [] => false

/-- Whether a word can be the wrapped program. -/
def isProgram (word : Word) : Bool :=
  word.origin == .literal && startsProgram word.text.toList

/-- The program that a wrapper's arguments run, with the words after it. Options, values of options,
assignments, priorities and durations come before it; `skipping` says that the next word is the
value of an option. -/
def wrapped? (skipping : Bool) : List Word → Option (Word × List Word)
  | [] => none
  | word :: rest =>
    if word.text = "" then wrapped? skipping rest
    else if skipping then wrapped? false rest
    else if word.text.toList.head? = some '-' then wrapped? (valueOptions.contains word.text) rest
    else if word.text.toList.contains '=' then wrapped? false rest
    else if isQuantity word.text.toList then wrapped? false rest
    else if isProgram word then some (word, rest)
    else wrapped? false rest

/-- The words after a wrapped program are fewer than the wrapper's arguments. -/
theorem length_lt_of_wrapped? {skipping : Bool} {words rest : List Word} {word : Word}
    (h : wrapped? skipping words = some (word, rest)) : rest.length < words.length := by
  induction words generalizing skipping with
  | nil => simp [wrapped?] at h
  | cons first others ih =>
    rw [wrapped?] at h
    grind

/-- A command's own program: wrappers are peeled off as long as they run another one. -/
def unwrap (command : Command) : Command :=
  if wrappers.contains (baseName command.name) then
    match _h : wrapped? false command.arguments with
    | some (word, rest) => unwrap ⟨word.text, rest, command.position⟩
    | none => command
  else command
termination_by command.arguments.length
decreasing_by exact length_lt_of_wrapped? _h

end Footgun.Shell
