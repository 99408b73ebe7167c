import ModuleBuild.Lowering.Batch

/-!
# Batches in turn

What a batch comes to when its attempts are made one after another. The attempts may hang on one
another through the files and the tools, so nothing is assumed of them but that each one ends with
an outcome.

## Main definitions

* `failuresBefore` — how many of the first outcomes are failures
* `Batch.Answers` — each attempt ends with an outcome
* `Batch.Trail` — all attempts of a batch, one after another
* `Batch.InTurn` — a trail that ends with the first failure that is one too many, or with the batch

## Main results

* `Batch.run_runInTurn` — a batch in turn leaves such a trail
* `gather_take` — the report does not show what is behind the failure that was one too many
-/

namespace ModuleBuild

/-! ### Counting failures -/

/-- How many of the first `n` outcomes are failures. -/
def failuresBefore (outcomes : List UnitOutcome) (n : Nat) : Nat :=
  (outcomes.take n).countP UnitOutcome.isFailed

@[simp] theorem failuresBefore_zero (outcomes : List UnitOutcome) :
    failuresBefore outcomes 0 = 0 := by
  simp [failuresBefore]

theorem failuresBefore_cons_succ (failed : Nat) (outcome : UnitOutcome) (rest : List UnitOutcome)
    (n : Nat) :
    failed + failuresBefore (outcome :: rest) (n + 1) =
      Batch.countFailure failed outcome + failuresBefore rest n := by
  unfold failuresBefore Batch.countFailure
  rw [List.take_succ_cons, List.countP_cons]
  split <;> omega

/-- One more outcome counts if it is a failure. -/
theorem failuresBefore_succ {outcomes : List UnitOutcome} {n : Nat} {outcome : UnitOutcome}
    (h : outcomes[n]? = some outcome) :
    failuresBefore outcomes (n + 1) = Batch.countFailure (failuresBefore outcomes n) outcome := by
  unfold failuresBefore Batch.countFailure
  rw [List.take_add_one, h, Option.toList_some, List.countP_append, List.countP_singleton]
  split <;> rfl

theorem failuresBefore_mono (outcomes : List UnitOutcome) {m n : Nat} (h : m ≤ n) :
    failuresBefore outcomes m ≤ failuresBefore outcomes n :=
  ((List.take_prefix_take_left h).sublist).countP_le

theorem failuresBefore_take {outcomes : List UnitOutcome} {m n : Nat} (h : m ≤ n) :
    failuresBefore (outcomes.take n) m = failuresBefore outcomes m := by
  rw [failuresBefore, failuresBefore, List.take_take, Nat.min_eq_left h]

/-! ### Trails -/

namespace Batch

variable {σ : Type} {ceiling failed : Nat} {batch : Batch σ} {st st' : BuildState σ}
  {outcomes : List UnitOutcome}

/-- Each attempt ends with an outcome, whatever went before. -/
def Answers (batch : Batch σ) : Prop :=
  ∀ attempt ∈ batch, ∀ st, ∃ outcome st', attempt.run st = (.ok outcome, st')

/-- All attempts of a batch one after another, with their outcomes. -/
inductive Trail : Batch σ → BuildState σ → List UnitOutcome → BuildState σ → Prop where
  /-- No attempt is left. -/
  | nil (st : BuildState σ) : Trail [] st [] st
  /-- The first attempt is made, and then the rest. -/
  | cons {attempt : Step σ UnitOutcome} {rest : Batch σ} {st st' st'' : BuildState σ}
    {outcome : UnitOutcome} {outcomes : List UnitOutcome}
    (first : attempt.run st = (.ok outcome, st')) (others : Trail rest st' outcomes st'') :
    Trail (attempt :: rest) st (outcome :: outcomes) st''

/-- What a batch in turn leaves behind, `failed` units having failed before. -/
structure InTurn (ceiling failed : Nat) (batch : Batch σ) (st : BuildState σ)
    (outcomes : List UnitOutcome) (st' : BuildState σ) : Prop where
  /-- The first attempts are made in order, and no others. -/
  trail : Trail (batch.take outcomes.length) st outcomes st'
  /-- There are no more of them than units. -/
  length_le : outcomes.length ≤ batch.length
  /-- Before each of them no unit too many had failed. -/
  within : ∀ n < outcomes.length, failed + failuresBefore outcomes n ≤ ceiling
  /-- If some unit is left, then one too many has failed. -/
  halted : outcomes.length < batch.length →
    ceiling < failed + failuresBefore outcomes outcomes.length

theorem InTurn.nil (ceiling failed : Nat) (st : BuildState σ) :
    InTurn ceiling failed [] st [] st where
  trail := .nil st
  length_le := Nat.le_refl _
  within n hn := by simp at hn
  halted hn := by simp at hn

/-- The failure that is one too many ends the batch. -/
theorem InTurn.last {attempt : Step σ UnitOutcome} {outcome : UnitOutcome} {rest : Batch σ}
    (first : attempt.run st = (.ok outcome, st')) (hfailed : failed ≤ ceiling)
    (h : ceiling < countFailure failed outcome) :
    InTurn ceiling failed (attempt :: rest) st [outcome] st' where
  trail := .cons first (.nil st')
  length_le := by simp
  within n hn := by
    obtain rfl : n = 0 := by simpa using hn
    simpa using hfailed
  halted _ := by
    rw [List.length_singleton, failuresBefore_cons_succ, failuresBefore_zero]
    exact h

/-- As long as no unit too many has failed the batch goes on. -/
theorem InTurn.cons {attempt : Step σ UnitOutcome} {outcome : UnitOutcome} {rest : Batch σ}
    {st'' : BuildState σ} (first : attempt.run st = (.ok outcome, st')) (hfailed : failed ≤ ceiling)
    (others : InTurn ceiling (countFailure failed outcome) rest st' outcomes st'') :
    InTurn ceiling failed (attempt :: rest) st (outcome :: outcomes) st'' where
  trail := by
    rw [List.length_cons, List.take_succ_cons]
    exact .cons first others.trail
  length_le := Nat.succ_le_succ others.length_le
  within n hn := by
    cases n with
    | zero => simpa using hfailed
    | succ n =>
      rw [failuresBefore_cons_succ]
      exact others.within n (Nat.lt_of_succ_lt_succ hn)
  halted hn := by
    rw [List.length_cons, failuresBefore_cons_succ]
    exact others.halted (Nat.lt_of_succ_lt_succ hn)

/-- **A batch in turn** makes its attempts in order, and stops after the failure that is one too
many. -/
theorem run_runInTurn (hanswers : batch.Answers) (hfailed : failed ≤ ceiling)
    (st : BuildState σ) :
    ∃ outcomes st', (runInTurn ceiling failed batch).run st = (.ok outcomes, st') ∧
      InTurn ceiling failed batch st outcomes st' := by
  induction batch generalizing failed st with
  | nil => exact ⟨[], st, rfl, .nil ceiling failed st⟩
  | cons attempt rest ih =>
    obtain ⟨outcome, st', first⟩ := hanswers attempt List.mem_cons_self st
    rw [run_runInTurn_cons first]
    by_cases hc : ceiling < countFailure failed outcome
    · rw [if_pos hc]
      exact ⟨[outcome], st', rfl, .last first hfailed hc⟩
    · rw [if_neg hc]
      obtain ⟨outcomes, st'', hrun, hturn⟩ :=
        ih (fun a ha => hanswers a (List.mem_cons_of_mem _ ha)) (Nat.le_of_not_lt hc) st'
      rw [hrun]
      exact ⟨outcome :: outcomes, st'', rfl, .cons first hfailed hturn⟩

end Batch

/-! ### The report -/

/-- Nothing behind the failure that was one too many shows in the report. -/
theorem gather_take {ceiling : Nat} {outcomes : List UnitOutcome} {r : LoweringReport} {n : Nat}
    (hr : r.failures.length ≤ ceiling)
    (hn : n < outcomes.length → ceiling < r.failures.length + failuresBefore outcomes n) :
    gather ceiling r (outcomes.take n) = gather ceiling r outcomes := by
  induction outcomes generalizing r n with
  | nil => simp
  | cons outcome rest ih =>
    cases n with
    | zero =>
      have := hn (Nat.succ_pos _)
      rw [failuresBefore_zero] at this
      omega
    | succ n =>
      have htail : n < rest.length →
          ceiling < Batch.countFailure r.failures.length outcome + failuresBefore rest n := by
        intro h
        rw [← failuresBefore_cons_succ]
        exact hn (Nat.succ_lt_succ h)
      rw [List.take_succ_cons]
      cases outcome with
      | lowered object => exact ih hr htail
      | skipped => exact ih hr htail
      | failed failure =>
        by_cases hc : ceiling ≤ r.failures.length
        · rw [gather_failed_of_le hc, gather_failed_of_le hc]
        · have hlt : r.failures.length < ceiling := Nat.lt_of_not_le hc
          have hle : (r.failures ++ [failure]).length ≤ ceiling := by
            simpa using Nat.succ_le_of_lt hlt
          rw [gather_failed_of_lt hlt, gather_failed_of_lt hlt]
          simp only
          rw [ih hle (by simpa [Batch.countFailure, UnitOutcome.isFailed] using htail)]

end ModuleBuild
