import ModuleBuild.Build.Step
import ModuleBuild.Lowering.Report

/-!
# Batches

A batch is a list of attempts, one for each unit. The attempts do not depend on one another, so a
batch can be carried out in turn, or by several workers at the same time.

## Main definitions

* `Batch` — the attempts
* `Batch.runInTurn` — one attempt after the other, up to the failure that is one too many

## Main results

* `Batch.run_runInTurn_cons` — the first attempt, and then the rest unless the batch is over
-/

namespace ModuleBuild

/-- One attempt for each unit, in the order of the manifest. -/
abbrev Batch (σ : Type) : Type := List (Step σ UnitOutcome)

namespace Batch

variable {σ : Type}

/-- How many units have failed after one more outcome. -/
def countFailure (failed : Nat) (outcome : UnitOutcome) : Nat :=
  if outcome.isFailed then failed + 1 else failed

/-- Makes the attempts in turn, `failed` units having failed before, and stops after the failure
that is one too many. -/
def runInTurn (ceiling : Nat) : Nat → Batch σ → Step σ (List UnitOutcome)
  | _, [] => pure []
  | failed, attempt :: rest => do
    let outcome ← attempt
    let failed := countFailure failed outcome
    if failed > ceiling then return [outcome]
    else return outcome :: (← runInTurn ceiling failed rest)

/-- The first attempt of a batch is always made. The rest follows unless one unit too many has
failed. -/
theorem run_runInTurn_cons {ceiling failed : Nat} {attempt : Step σ UnitOutcome} {rest : Batch σ}
    {st st' : BuildState σ} {outcome : UnitOutcome} (h : attempt.run st = (.ok outcome, st')) :
    (runInTurn ceiling failed (attempt :: rest)).run st =
      if ceiling < countFailure failed outcome then (.ok [outcome], st')
      else
        match (runInTurn ceiling (countFailure failed outcome) rest).run st' with
        | (.ok outcomes, st) => (.ok (outcome :: outcomes), st)
        | (.error e, st) => (.error e, st) := by
  rw [runInTurn, Step.run_bind, h]
  dsimp only
  by_cases hc : ceiling < countFailure failed outcome
  · rw [if_pos hc, if_pos hc]
    rfl
  · rw [if_neg hc, if_neg hc, Step.run_bind]
    rcases (runInTurn ceiling (countFailure failed outcome) rest).run st' with ⟨_ | _, _⟩ <;> rfl

end Batch

end ModuleBuild
