import ModuleBuild.BuildError
import ModuleBuild.Duration

/-!
# Waiting for a path

A path is looked for at once and then again after each of equal pauses, until it is there or the
pauses add up to the time that was granted.

## Main definitions

* `WaitEnd.afterLook?` — whether waiting ends with a look
* `waitFrom`, `waitFor` — the waiting, by what each look finds
* `Waited` — how it has ended, and what was done until then
* `waitForPath` — waiting in a file tree that does not change

## Implementation notes

What the looks find is a parameter, since others change the files meanwhile. Nothing bounds the
number of looks but the time, and empty pauses do not take any; so the number that is allowed is a
parameter too, and waiting that takes more has no result.
-/

namespace ModuleBuild

/-- How waiting can end. -/
inductive WaitEnd where
  /-- The path is there. -/
  | appeared
  /-- The time is over. -/
  | timedOut
  /-- The pauses are longer in all than a duration can be. -/
  | overflowed
  deriving DecidableEq

/-- How waiting ends with a look, `waited` having passed, unless it goes on. -/
def WaitEnd.afterLook? (timeout waited : Duration) (found : Bool) : Option WaitEnd :=
  if found then some .appeared else if timeout ≤ waited then some .timedOut else none

/-- What is done while waiting. -/
inductive WaitAct where
  /-- The path is looked for. -/
  | look
  /-- Nothing, for the length of a pause. -/
  | pause
  deriving DecidableEq

/-- Waiting that has ended. -/
structure Waited where
  /-- How it has ended. -/
  ending : WaitEnd
  /-- What was done, in order. -/
  acts : List WaitAct
  deriving DecidableEq

namespace Waited

/-- How many pauses were made. -/
def pauses (w : Waited) : Nat := w.acts.count .pause

/-- How many looks were taken. -/
def looks (w : Waited) : Nat := w.acts.count .look

/-- What comes of waiting for a path. Too long a time is no result. -/
def result? (w : Waited) (p : Path) : Option (Except BuildError Unit) :=
  match w.ending with
  | .appeared => some (.ok ())
  | .timedOut => some (.error (.timedOut p))
  | .overflowed => none

end Waited

/-- Waits from the look with a number on, `waited` having passed, unless that takes more looks than
are allowed. -/
def waitFrom (present : Nat → Bool) (timeout pause : Duration) :
    Nat → Nat → Duration → Option Waited
  | 0, _, _ => none
  | looks + 1, number, waited =>
    match WaitEnd.afterLook? timeout waited (present number) with
    | some ending => some ⟨ending, [.look]⟩
    | none =>
      match waited.add? pause with
      | some waited => do
        let w ← waitFrom present timeout pause looks (number + 1) waited
        return { w with acts := .look :: .pause :: w.acts }
      | none => some ⟨.overflowed, [.look, .pause]⟩

/-- Waits until a look finds the path or the time is over, unless that takes more looks than are
allowed. -/
def waitFor (present : Nat → Bool) (timeout pause : Duration) (looks : Nat) : Option Waited :=
  waitFrom present timeout pause looks 0 .zero

/-- Waits for a path while nothing changes. There are at most as many pauses as nanoseconds, unless
pauses are empty; then the time is not over before the looks are. -/
def awaitPath (files : FileTree) (cwd : Location) (p : Path) (timeout pause : Duration) :
    Except BuildError Unit :=
  ((waitFor (fun _ => files.contains cwd p) timeout pause (timeout.total + 1)).bind
    (·.result? p)).getD (.error (.timedOut p))

/-- Waits for a path while nothing changes, for some milliseconds with others between the looks. -/
def waitForPath (files : FileTree) (cwd : Location) (p : Path) (timeout pause : Nat) :
    Except BuildError Unit :=
  awaitPath files cwd p (.ofMillis timeout.toUInt64) (.ofMillis pause.toUInt64)

end ModuleBuild
