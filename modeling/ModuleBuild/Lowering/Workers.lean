import ModuleBuild.Lowering.Batch

/-!
# Workers

Several workers share a batch. A worker takes a unit, reads one by one the flags of the units before
it, and leaves its unit alone if it has seen more failures than the batch may have. Otherwise it
makes the attempt, sets the flag of its own unit if that has failed, and records the outcome.

The workers take these small steps in any order. The flags may change while a worker reads them, and
an attempt may end before one for an earlier unit has begun.

## Main definitions

* `Worker` — where the worker of one unit stands
* `Workers` — all of them, with the flags
* `Workers.step` — the next step of one worker
* `Workers.follow` — the steps of a schedule
* `Batch.runConcurrently` — a batch by a schedule, completed unit by unit

## Implementation notes

A schedule names the unit of each step. It may keep more workers busy than any pool has, so what
holds of all schedules holds of those of a pool of any size. A step of a worker that has nothing to
do changes nothing.
-/

namespace ModuleBuild

/-- Where the worker of a unit stands. -/
inductive Worker where
  /-- Nobody has taken the unit. -/
  | waiting
  /-- The flag of unit `next` is the next to read, and `seen` of those before it were set. -/
  | counting (next seen : Nat)
  /-- The unit is to be attempted. -/
  | ready
  /-- The outcome is known to the worker alone. -/
  | returned (outcome : UnitOutcome)
  /-- The flag of the unit is set, if it has failed. -/
  | flagged (outcome : UnitOutcome)
  /-- The outcome is recorded. -/
  | finished (outcome : UnitOutcome)
  deriving DecidableEq

/-- The outcome that is recorded, if there is one. -/
def Worker.outcome? : Worker → Option UnitOutcome
  | finished outcome => some outcome
  | _ => none

/-- The workers of a batch. -/
structure Workers where
  /-- The units that are known to have failed. -/
  flags : Array Bool
  /-- The worker of each unit. -/
  units : Array Worker
  deriving DecidableEq

namespace Workers

variable {σ : Type}

/-- The workers before the first step. -/
def start (total : Nat) : Workers := ⟨Array.replicate total false, Array.replicate total .waiting⟩

/-- Whether a unit is known to have failed. -/
def isFlagged (w : Workers) (unit : Nat) : Bool := w.flags[unit]?.getD false

/-- Sets the flag of a unit if its outcome is a failure. -/
def flag (w : Workers) (unit : Nat) (outcome : UnitOutcome) : Workers :=
  if outcome.isFailed then { w with flags := w.flags.setIfInBounds unit true } else w

/-- Moves the worker of a unit. -/
def move (w : Workers) (unit : Nat) (worker : Worker) : Workers :=
  { w with units := w.units.setIfInBounds unit worker }

/-- The next step of a worker that counts: it reads one more flag, or decides. -/
def count (w : Workers) (ceiling unit next seen : Nat) : Worker :=
  if next < unit then .counting (next + 1) (if w.isFlagged next then seen + 1 else seen)
  else if seen > ceiling then .returned .skipped
  else .ready

/-- The next step of the worker of a unit. -/
def step (ceiling : Nat) (batch : Array (Step σ UnitOutcome)) (w : Workers) (unit : Nat) :
    Step σ Workers :=
  match w.units[unit]?, batch[unit]? with
  | some .waiting, _ => return w.move unit (.counting 0 0)
  | some (.counting next seen), _ => return w.move unit (w.count ceiling unit next seen)
  | some .ready, some attempt => do
    let outcome ← attempt
    return w.move unit (.returned outcome)
  | some (.returned outcome), _ => return (w.flag unit outcome).move unit (.flagged outcome)
  | some (.flagged outcome), _ => return w.move unit (.finished outcome)
  | _, _ => return w

/-- The steps of a schedule. -/
def follow (ceiling : Nat) (batch : Array (Step σ UnitOutcome)) :
    List Nat → Workers → Step σ Workers
  | [], w => pure w
  | unit :: rest, w => do
    let w ← w.step ceiling batch unit
    follow ceiling batch rest w

/-- The outcomes that are recorded, in the order of the units. -/
def outcomes (w : Workers) : List UnitOutcome := w.units.toList.filterMap Worker.outcome?

/-- How many steps the worker of a unit needs at most. -/
def stepsFor (unit : Nat) : Nat := unit + 5

/-- The schedule that brings every worker to its end, unit by unit. -/
def unitByUnit (total : Nat) : List Nat :=
  (List.range total).flatMap fun unit => List.replicate (stepsFor unit) unit

@[simp] theorem units_flag (w : Workers) (unit : Nat) (outcome : UnitOutcome) :
    (w.flag unit outcome).units = w.units := by
  unfold flag
  split <;> rfl

@[simp] theorem size_units_move (w : Workers) (unit : Nat) (worker : Worker) :
    (w.move unit worker).units.size = w.units.size := by
  simp [move]

theorem units_move_self {w : Workers} {unit : Nat} (h : unit < w.units.size) (worker : Worker) :
    (w.move unit worker).units[unit]? = some worker := by
  simp [move, h]

theorem units_move_of_ne (w : Workers) {unit other : Nat} (h : unit ≠ other) (worker : Worker) :
    (w.move unit worker).units[other]? = w.units[other]? := by
  simp [move, h]

end Workers

namespace Batch

variable {σ : Type}

/-- Carries out a batch by several workers, which take their steps by a schedule and then, as far as
it leaves anything undone, unit by unit. -/
def runConcurrently (schedule : List Nat) (ceiling : Nat) (batch : Batch σ) :
    Step σ (List UnitOutcome) := do
  let w ← Workers.follow ceiling batch.toArray (schedule ++ Workers.unitByUnit batch.length)
    (Workers.start batch.length)
  return w.outcomes

end Batch

end ModuleBuild
