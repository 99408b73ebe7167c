import ModuleBuild.Proofs.Build.Notes
import ModuleBuild.Proofs.Lowering.InTurn

/-!
# Attempts at units

What a batch does is told in terms of the tool calls that it makes. A builder that keeps a log of
its calls does what the builder does, so nothing that is proved of its log hangs on the log. An
attempt is an entry of the log together with the unit that the call was made for.

## Main definitions

* `Call`, `Builder.logging` — a tool call with its answer, and a builder that keeps a log of them
* `Attempt` — a unit with the call that was made for it
* `Builder.Makes` — some attempts lead from one state to another
* `Builder.Attempted` — the attempts of a batch that ends with a report

## Main results

* `Builder.attempts_of_trail` — the attempts that a trail is made of
* `Builder.run_lowerUnits_of_error` — there is none without a directory for the objects
-/

namespace ModuleBuild

/-- A tool call with the answer to it. -/
abbrev Call := Invocation × Except FileFault ToolOutput

/-- Whether a tool call ended with code zero. -/
def Call.Succeeded (c : Call) : Prop := ∃ output, c.2 = .ok output ∧ output.code = some 0

/-- A unit with the call that was made for it. -/
structure Attempt where
  /-- The unit. -/
  unit : Path
  /-- The call, with the answer to it. -/
  call : Call

namespace Attempt

/-- Whether the tool could not be started, or ended without a code or with another one than zero. -/
def hasFailed (a : Attempt) : Bool :=
  match a.call.2 with
  | .ok output => !output.succeeded
  | .error _ => true

/-- What is reported of the unit if it has failed. -/
def failure (a : Attempt) : UnitFailure :=
  match a.call.2 with
  | .ok output => ⟨a.unit, output.code, output.stderr⟩
  | .error fault => ⟨a.unit, none, (BuildError.spawn a.call.1.program fault).message⟩

/-- What became of the unit. -/
def outcome (a : Attempt) : UnitOutcome := Builder.outcomeOf a.call.1 a.unit a.call.2

theorem outcome_of_hasFailed {a : Attempt} (h : a.hasFailed = true) :
    a.outcome = .failed a.failure := by
  obtain ⟨unit, i, fault | output⟩ := a
  · rfl
  · have hs : output.succeeded = false := by simpa [hasFailed] using h
    simp [outcome, Builder.outcomeOf, failure, hs]

theorem outcome_of_not_hasFailed {a : Attempt} (h : a.hasFailed = false) :
    a.outcome = .lowered (Request.objectFor a.unit) := by
  obtain ⟨unit, i, fault | output⟩ := a
  · simp [hasFailed] at h
  · have hs : output.succeeded = true := by simpa [hasFailed] using h
    simp [outcome, Builder.outcomeOf, hs]

theorem isFailed_outcome (a : Attempt) : a.outcome.isFailed = a.hasFailed := by
  cases h : a.hasFailed with
  | true =>
    rw [outcome_of_hasFailed h]
    rfl
  | false =>
    rw [outcome_of_not_hasFailed h]
    rfl

theorem hasFailed_eq_false_iff {a : Attempt} : a.hasFailed = false ↔ a.call.Succeeded := by
  obtain ⟨unit, i, fault | output⟩ := a
  · simp [hasFailed, Call.Succeeded]
  · simp [hasFailed, Call.Succeeded, ToolOutput.succeeded]

end Attempt

namespace Builder

variable {σ : Type} {b : Builder σ} {r : Request} {units : List Path}
  {st st' : BuildState (List Call × σ)} {outcomes : List UnitOutcome}

/-- The same builder with a log of its tool calls. -/
def logging (b : Builder σ) : Builder (List Call × σ) := b.withRunner (b.runner.noting Prod.mk)

theorem answers_map_lowerOne {τ : Type} (b : Builder τ) (r : Request) (units : List Path) :
    Batch.Answers (units.map (b.lowerOne r)) := by
  intro attempt ha st
  obtain ⟨unit, -, rfl⟩ := List.mem_map.1 ha
  exact ⟨_, _, run_lowerOne b r unit st⟩

theorem runBatch_of_jobs_le_one {τ ρ : Type} {b : Builder τ} (hjobs : b.lowering.jobs ≤ 1)
    (batch : Batch ρ) : b.runBatch batch = batch.runInTurn (failureCeiling batch.length) 0 := by
  have hc : b.isConcurrent batch.length = false := by
    simp [isConcurrent, Nat.not_lt.2 hjobs]
  simp [runBatch, hc]

/-- Some attempts lead from one state to another. -/
structure Makes (b : Builder σ) (r : Request) (st : BuildState (List Call × σ))
    (attempts : List Attempt) (st' : BuildState (List Call × σ)) : Prop where
  /-- An attempt is the call for its unit. -/
  call_eq : ∀ a ∈ attempts, a.call.1 = b.lowerInvocation r a.unit
  /-- Their calls have been made. -/
  log_eq : st'.tools.1 = st.tools.1 ++ attempts.map Attempt.call
  /-- What these calls leave is left, and nothing else has changed. -/
  left_eq : (st'.files, st'.tools.2) =
    b.runner.after (attempts.map fun a => a.call.1) (st.files, st.tools.2)
  /-- Nothing was emitted. -/
  sink_eq : st'.sink = st.sink

/-- The attempts of a trail, one call for each unit. -/
theorem attempts_of_trail {batch : Batch (List Call × σ)}
    (h : Batch.Trail batch st outcomes st') (hbatch : batch = units.map (b.logging.lowerOne r)) :
    ∃ attempts : List Attempt, attempts.map Attempt.unit = units ∧
      outcomes = attempts.map Attempt.outcome ∧ b.Makes r st attempts st' := by
  induction h generalizing units with
  | nil st =>
    obtain rfl : units = [] := by simpa using hbatch.symm
    exact ⟨[], rfl, rfl, ⟨by simp, by simp, rfl, rfl⟩⟩
  | @cons attempt rest st st₁ st' outcome outcomes first others ih =>
    obtain ⟨unit, units', rfl, rfl, hrest⟩ := List.map_eq_cons_iff.1 hbatch.symm
    obtain ⟨attempts, hunits, houtcomes, hmakes⟩ := ih hrest.symm
    rw [run_lowerOne] at first
    obtain ⟨rfl, rfl⟩ := by simpa using first
    let a : Attempt := ⟨unit, b.lowerInvocation r unit,
      (b.runner.run (b.lowerInvocation r unit) st.files st.tools.2).1⟩
    refine ⟨a :: attempts, ?_, ?_, ?_⟩
    · rw [List.map_cons, hunits]
    · rw [List.map_cons, houtcomes]
      rfl
    · constructor
      case call_eq => exact List.forall_mem_cons.2 ⟨rfl, hmakes.call_eq⟩
      case log_eq =>
        rw [hmakes.log_eq, List.map_cons, List.append_cons]
        rfl
      case left_eq => exact hmakes.left_eq
      case sink_eq => exact hmakes.sink_eq

/-- A batch for some units that ends with a report: the attempts that were made, and what they
leave. -/
structure Attempted (b : Builder σ) (r : Request) (units : List Path)
    (st : BuildState (List Call × σ)) (attempts : List Attempt) (report : LoweringReport)
    (st' : BuildState (List Call × σ)) : Prop where
  /-- The batch ends with the report. -/
  run_eq : (b.logging.lowerUnits r units).run st = (.ok report, st')
  /-- The builder that keeps no log does the same. -/
  run_forget : (b.lowerUnits r units).run st.forget = (.ok report, st'.forget)
  /-- The calls of the attempts are all there are. -/
  log_eq : st'.tools.1 = st.tools.1 ++ attempts.map Attempt.call
  /-- Beyond the directory for the objects, what these calls leave is all that has changed. -/
  left_eq : (st'.files, st'.tools.2) = b.runner.after (attempts.map fun a => a.call.1)
    ((st.files.createDirectories b.cwd r.optDir).2, st.tools.2)
  /-- An attempt is the call for its unit. -/
  call_eq : ∀ a ∈ attempts, a.call.1 = b.lowerInvocation r a.unit

variable {attempts : List Attempt} {report : LoweringReport}

theorem Attempted.of_run {sink : Sink}
    (hrun : (b.logging.lowerUnits r units).run st = (.ok report, { st' with sink }))
    (hmakes : b.Makes r { st with files := (st.files.createDirectories b.cwd r.optDir).2 }
      attempts st') :
    b.Attempted r units st attempts report { st' with sink } := by
  have hforget : (b.logging.lowerUnits r units).Forgets (b.lowerUnits r units) :=
    forgets_lowerUnits units
  constructor
  case run_eq => exact hrun
  case run_forget => rw [hforget st, hrun]
  case log_eq => exact hmakes.log_eq
  case left_eq => exact hmakes.left_eq
  case call_eq => exact hmakes.call_eq

/-- What was called are the invocations for the units. -/
theorem Attempted.invocations_eq (h : b.Attempted r units st attempts report st') :
    (attempts.map Attempt.call).map Prod.fst =
      (attempts.map Attempt.unit).map (b.lowerInvocation r) := by
  rw [List.map_map, List.map_map]
  exact List.map_congr_left h.call_eq

/-- Without a directory for the objects no call is made and nothing is emitted. -/
theorem run_lowerUnits_of_error {fault : FileFault} (units : List Path)
    (hdir : (st.files.createDirectories b.cwd r.optDir).1 = .error fault) :
    (b.logging.lowerUnits r units).run st = (.error (.file r.optDir fault),
      { st with files := (st.files.createDirectories b.cwd r.optDir).2 }) := by
  have hmake := Step.run_createDirectories b.cwd r.optDir st
  rw [hdir] at hmake
  rw [lowerUnits, run_lowerBatch_of_error (b := b.logging) hmake]

end Builder

end ModuleBuild
