import ModuleBuild.Build.Debasing
import ModuleBuild.Lowering.Workers

/-!
# The second step: lowering the units

The lowering tool is called for every unit, in turn or by several workers at the same time, and the
report on the batch is made from what became of the units.

## Main definitions

* `Builder.lowerInvocation` — the call of the lowering tool for a unit
* `Builder.lowerOne` — lowers one unit
* `Builder.lowerBatch` — carries out a batch and reports on it
* `Builder.lowerUnits` — lowers a list of units and reports on it

## Implementation notes

A system may refuse to make a pool of several workers, and the build is then stopped by
`BuildError.noWorkers` before any unit is lowered. That is left out: there are always workers.
-/

namespace ModuleBuild

namespace Builder

variable {σ τ : Type}

/-- The call of the lowering tool for a unit. -/
def lowerInvocation (b : Builder σ) (r : Request) (unit : Path) : Invocation where
  program := b.toolchain.llc
  arguments :=
    (r.profile.flags r.framePointer).arguments ++
      (match b.lowering.regalloc with
        | some name => [Octets.ofText s!"--regalloc={name}"]
        | none => []) ++
      ["-filetype=obj", "-o", (r.outputDir.join (Request.objectFor unit)).text, unit.text]
  cwd := r.optDir

/-- What became of a unit, by the answer to its tool call. -/
def outcomeOf (i : Invocation) (unit : Path) : Except FileFault ToolOutput → UnitOutcome
  | .ok output =>
    if output.succeeded then .lowered (Request.objectFor unit)
    else .failed ⟨unit, output.code, output.stderr⟩
  | .error fault => .failed ⟨unit, none, (BuildError.spawn i.program fault).message⟩

/-- Lowers one unit. -/
def lowerOne (b : Builder σ) (r : Request) (unit : Path) : Step σ UnitOutcome := do
  let i := b.lowerInvocation r unit
  return outcomeOf i unit (← Step.call b.runner i)

/-- Whether several workers share a batch of so many units. -/
def isConcurrent (b : Builder σ) (total : Nat) : Bool := b.lowering.jobs > 1 && total > 1

/-- Carries out a batch as the options ask. -/
def runBatch (b : Builder σ) (batch : Batch τ) : Step τ (List UnitOutcome) :=
  let ceiling := failureCeiling batch.length
  if b.isConcurrent batch.length then batch.runConcurrently b.lowering.schedule ceiling
  else Batch.runInTurn ceiling 0 batch

/-- Carries out a batch, with a directory for the objects, and reports on it. -/
def lowerBatch (b : Builder σ) (r : Request) (batch : Batch τ) : Step τ LoweringReport := do
  Step.createDirectories b.cwd r.optDir
  let outcomes ← b.runBatch batch
  let (report, diagnostics) := collect batch.length outcomes
  Step.emitAll diagnostics
  return report

/-- Lowers a list of units and reports on it. -/
def lowerUnits (b : Builder σ) (r : Request) (units : List Path) : Step σ LoweringReport :=
  b.lowerBatch r (units.map (b.lowerOne r))

/-- Lowering a unit is one tool call and changes nothing else. -/
theorem run_lowerOne (b : Builder σ) (r : Request) (unit : Path) (st : BuildState σ) :
    (b.lowerOne r unit).run st =
      match b.runner.run (b.lowerInvocation r unit) st.files st.tools with
      | (answer, files, tools) =>
        (.ok (outcomeOf (b.lowerInvocation r unit) unit answer), { st with files, tools }) := rfl

/-- A batch that has no directory for its objects is not begun. -/
theorem run_lowerBatch_of_error {b : Builder σ} {r : Request} {st st' : BuildState τ}
    {e : BuildError} (hdir : (Step.createDirectories b.cwd r.optDir).run st = (.error e, st'))
    (batch : Batch τ) : (b.lowerBatch r batch).run st = (.error e, st') := by
  rw [lowerBatch, Step.run_bind, hdir]

/-- The report on a batch is made of its outcomes, and the diagnostics come last. -/
theorem run_lowerBatch {b : Builder σ} {r : Request} {batch : Batch τ}
    {st st₁ st₂ : BuildState τ} {outcomes : List UnitOutcome}
    (hdir : (Step.createDirectories b.cwd r.optDir).run st = (.ok (), st₁))
    (hrun : (b.runBatch batch).run st₁ = (.ok outcomes, st₂)) :
    (b.lowerBatch r batch).run st =
      (.ok (collect batch.length outcomes).1,
        { st₂ with sink := (collect batch.length outcomes).2.foldl Sink.emit st₂.sink }) := by
  rw [lowerBatch, Step.run_bind, hdir]
  dsimp only
  rw [Step.run_bind, hrun]
  dsimp only
  rw [Step.run_bind, Step.run_emitAll]
  rfl

end Builder

end ModuleBuild
