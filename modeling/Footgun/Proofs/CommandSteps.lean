import Footgun.Cli.Run

/-! # Steps of commands

A step of a command changes the session, gives a value or stops the command. Most steps leave the
disk as it is, and do what a computation without a session says. Main definitions:

* `Run.Follows` — on a disk, a step does what a computation says and leaves the disk as it is;
* `Run.Exits` — on a disk, a command has an exit code.

The main statements are `Run.Follows.bind`, for steps after each other, and `exitCode_run`, for
command lines. -/

namespace Footgun.Cli

open Journal (Event)
open Syntax (Parser)

/-! ## Steps that leave the disk as it is -/

namespace Run

variable {α β : Type} {disk : Disk}

/-- Running `first >>= next`: `next` starts where `first` has ended, unless `first` has stopped. -/
theorem run_bind (first : Run α) (next : α → Run β) (session : Session) :
    (first >>= next).run session =
      match first.run session with
      | (.ok value, after) => (next value).run after
      | (.error stop, after) => (.error stop, after) := by
  change (match first.run session with
    | (result, after) => ExceptT.bindCont next result after) = _
  rcases first.run session with ⟨result, after⟩
  cases result with
  | ok value => rfl
  | error stop => rfl

/-- On `disk`, the `step` goes on with the value of `computation` or stops with its failure. It
leaves the disk as it is. -/
def Follows (disk : Disk) (step : Run α) (computation : Except Failure α) : Prop :=
  ∀ session : Session, session.disk = disk →
    ∃ after : Session, after.disk = disk ∧
      step.run session = (computation.mapError Stop.failure, after)

/-- If `first` follows `computation` and `next value` follows `f value`, `first >>= next` follows
`computation >>= f`. -/
theorem Follows.bind {first : Run α} {next : α → Run β} {computation : Except Failure α}
    {f : α → Except Failure β} (here : Follows disk first computation)
    (later : ∀ value, computation = .ok value → Follows disk (next value) (f value)) :
    Follows disk (first >>= next) (computation >>= f) := by
  intro session same
  obtain ⟨after, kept, gives⟩ := here session same
  rw [run_bind, gives]
  cases computation with
  | error failure => exact ⟨after, kept, rfl⟩
  | ok value => exact later value rfl after kept

/-- After a step that follows `.ok value`, the steps `next value` alone decide on what is
followed. -/
theorem Follows.seq {first : Run α} {next : α → Run β} {value : α} {computation : Except Failure β}
    (here : Follows disk first (.ok value)) (later : Follows disk (next value) computation) :
    Follows disk (first >>= next) computation := by
  refine here.bind (f := fun _ => computation) fun other same => ?_
  cases same
  exact later

/-- A step that follows `.error failure` stops whatever is behind it. -/
theorem Follows.stop {first : Run α} {failure : Failure}
    (here : Follows disk first (.error failure)) (next : α → Run β) :
    Follows disk (first >>= next) (.error failure) :=
  here.bind (f := fun _ => .error failure) fun _ same => by cases same

/-- After `get`, the steps may depend on the session, as long as they follow the same for all
sessions with `session.disk = disk`. -/
theorem follows_get {next : Session → Run α} {computation : Except Failure α}
    (later : ∀ session, session.disk = disk → Follows disk (next session) computation) :
    Follows disk (get >>= next) computation :=
  fun session same => later session same session same

/-- The step `pure value` follows `.ok value`. -/
theorem follows_pure (value : α) : Follows disk (pure value) (.ok value) :=
  fun session same => ⟨session, same, rfl⟩

/-- Throwing a failure follows `.error failure`. -/
theorem follows_failure (failure : Failure) :
    Follows disk (throw (.failure failure) : Run α) (.error failure) :=
  fun session same => ⟨session, same, rfl⟩

/-- Telling events goes on. -/
theorem follows_tell (events : List Event) : Follows disk (tell events) (.ok ()) :=
  fun session same => ⟨{ session with events := session.events ++ events }, same, rfl⟩

/-- Printing goes on. -/
theorem follows_print (text : List Char) : Follows disk (print text) (.ok ()) :=
  fun session same => ⟨{ session with output := session.output ++ String.ofList text }, same, rfl⟩

/-- The step `ofExcept computation` follows `computation`. -/
theorem follows_ofExcept (computation : Except Failure α) :
    Follows disk (ofExcept computation) computation := by
  cases computation with
  | error failure => exact follows_failure failure
  | ok value => exact follows_pure value

end Run

/-! ## Exit codes of commands -/

/-- The exit code of a command that ends with a value or stops. -/
def codeOf : Except Stop Unit → Int
  | .ok () => 0
  | .error (.exit code) => code
  | .error (.refusal _) => 1
  | .error (.failure _) => 1

namespace Run

/-- On `disk`, the exit code of `command` is `code`. -/
def Exits (disk : Disk) (command : Run Unit) (code : Int) : Prop :=
  ∀ session : Session, session.disk = disk → codeOf (command.run session).1 = code

variable {α : Type} {disk : Disk} {code : Int}

/-- Behind a step that goes on with `value`, a command has the exit code of `next value`. -/
theorem Follows.exits_seq {first : Run α} {next : α → Run Unit} {value : α}
    (here : Follows disk first (.ok value)) (later : Exits disk (next value) code) :
    Exits disk (first >>= next) code := by
  intro session same
  obtain ⟨after, kept, gives⟩ := here session same
  rw [run_bind, gives]
  exact later after kept

/-- A command whose first step follows `.error failure` has the exit code 1. -/
theorem Follows.exits_stop {first : Run α} {failure : Failure}
    (here : Follows disk first (.error failure)) (next : α → Run Unit) :
    Exits disk (first >>= next) 1 := by
  intro session same
  obtain ⟨after, _, gives⟩ := here session same
  rw [run_bind, gives]
  rfl

/-- Running `guarded command body` ends as `body`, but for what `atBorder` makes of a stop. -/
theorem run_guarded (command : String) (body : Run α) (session : Session) :
    (guarded command body).run session =
      match body.run session with
      | (.ok value, after) => (.ok value, after)
      | (.error stop, after) =>
        (.error (atBorder command stop).1,
          { after with events := after.events ++ (atBorder command stop).2 }) := by
  rw [guarded]
  simp only [ExceptT.run, tryCatch, tryCatchThe, MonadExceptOf.tryCatch, ExceptT.tryCatch,
    ExceptT.mk]
  simp only [bind, StateT.bind]
  rcases body session with ⟨ending, after⟩
  cases ending with
  | ok value => rfl
  | error stop => rfl

/-- From `Exits disk body code` follows the same for `guarded command body`. -/
theorem Exits.guarded {body : Run Unit} (inside : Exits disk body code) (command : String) :
    Exits disk (guarded command body) code := by
  intro session same
  rw [← inside session same, run_guarded]
  rcases body.run session with ⟨ending, after⟩
  match ending with
  | .ok () => rfl
  | .error (.exit code) => rfl
  | .error (.refusal message) => rfl
  | .error (.failure failure) => rfl

end Run

/-- The exit code of `Result.ofEnding ending` is `codeOf ending.1`. -/
theorem exitCode_ofEnding (ending : Except Stop Unit × Session) :
    (Result.ofEnding ending).exitCode = codeOf ending.1 := by
  match ending with
  | (.ok (), session) => rfl
  | (.error (.exit code), session) => rfl
  | (.error (.refusal message), session) => rfl
  | (.error (.failure failure), session) => rfl

/-- The exit code of `run` is the one that `perform` has for the accepted request. -/
theorem exitCode_run {parser : Parser} {environment : Environment} {disk : Disk}
    {arguments : List String} {request : Request} {code : Int}
    (accepted : readRequest disk arguments = .ok request)
    (exits : Run.Exits disk (perform parser environment request) code) :
    (run parser environment disk arguments).exitCode = code := by
  rw [run, accepted]
  exact (exitCode_ofEnding _).trans (exits (Session.start disk) rfl)

end Footgun.Cli
