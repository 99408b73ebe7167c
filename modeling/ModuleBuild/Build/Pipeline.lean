import ModuleBuild.Build.Lowering
import ModuleBuild.Build.Publishing
import ModuleBuild.Manifest

/-!
# The whole build

A build debases the target, lowers every unit of the manifest, and publishes the objects. Each step
starts only if the one before it has ended well; in particular nothing is published unless every
unit was lowered.

## Main definitions

* `Builder.debaseStep`, `Builder.lowerStep`, `Builder.publishStep` — the three steps, with the
  diagnostics that belong to them
* `Builder.build` — the build
* `BuildOutcome` — what it has come to
-/

namespace ModuleBuild

/-- What a build has come to. -/
structure BuildOutcome where
  /-- The first step. -/
  debase : DebaseOutcome
  /-- The second step. -/
  lower : LoweringReport
  /-- The third step. -/
  published : Published
  deriving DecidableEq

namespace Builder

variable {σ : Type}

/-- The note that the first tool was skipped. -/
def skippedNote (r : Request) (manifest : Path) : Diagnostic :=
  (Diagnostic.note s!"{r.target.shown} is unchanged, debase skipped").withPath manifest

/-- The first step. A skipped tool leaves a note. -/
def debaseStep (b : Builder σ) (r : Request) : Step σ DebaseOutcome := do
  let outcome ← b.debase r
  if outcome.cached then Step.emit (skippedNote r outcome.manifestPath)
  return outcome

/-- The second step: every unit of the manifest must be lowered. -/
def lowerStep (b : Builder σ) (r : Request) (manifestPath : Path) : Step σ LoweringReport := do
  let manifest ← Step.ofExcept (Manifest.load (← Step.files) b.cwd manifestPath)
  let report ← b.lowerUnits r (manifest.units r.outputDir)
  if report.succeeded then return report
  else Step.fail (.loweringFailed report.failures.length report.total)

/-- The warning for what the tool wrote while it made an archive. -/
def archiveWarning (stderr : String) : Diagnostic :=
  (Diagnostic.warning "the archiver reported problems").withNote (Text.trim stderr)

/-- The third step. What the tool wrote while it made an archive becomes a warning. -/
def publishStep (b : Builder σ) (r : Request) (report : LoweringReport) : Step σ Published := do
  let published ← b.publishObjects r report.objects
  match published with
  | .archive _ stderr =>
    if !Text.isAllBlank stderr then Step.emit (archiveWarning stderr)
  | .response _ => pure ()
  return published

/-- The build. -/
def build (b : Builder σ) (r : Request) : Step σ BuildOutcome := do
  let debase ← b.debaseStep r
  let lower ← b.lowerStep r debase.manifestPath
  let published ← b.publishStep r lower
  return { debase, lower, published }

/-! ### Running the steps -/

/-- A note on a skipped tool is all that the first step adds. -/
theorem run_debaseStep (b : Builder σ) (r : Request) (st : BuildState σ) :
    ∃ sink, (b.debaseStep r).run st =
      (((b.debase r).run st).1, { ((b.debase r).run st).2 with sink }) := by
  rw [debaseStep, Step.run_bind]
  rcases (b.debase r).run st with ⟨e | outcome, st'⟩
  · exact ⟨st'.sink, rfl⟩
  · rcases hcached : outcome.cached with _ | _
    · exact ⟨st'.sink, by simp [hcached]⟩
    · refine ⟨st'.sink.emit (skippedNote r outcome.manifestPath), ?_⟩
      simp [hcached, Step.run_bind]

/-- What the second step makes of the report. -/
def judged (report : LoweringReport) : Except BuildError LoweringReport :=
  if report.succeeded then .ok report
  else .error (.loweringFailed report.failures.length report.total)

theorem judged_eq_ok {report report' : LoweringReport} :
    judged report = .ok report' ↔ report.succeeded = true ∧ report = report' := by
  unfold judged
  split <;> simp_all

/-- Without a manifest the second step ends at once. Otherwise it lowers the units, and the report
is judged afterwards. -/
theorem run_lowerStep (b : Builder σ) (r : Request) (path : Path) (st : BuildState σ) :
    (b.lowerStep r path).run st =
      match Manifest.load st.files b.cwd path with
      | .error e => (.error e, st)
      | .ok manifest =>
        (((b.lowerUnits r (manifest.units r.outputDir)).run st).1.bind judged,
          ((b.lowerUnits r (manifest.units r.outputDir)).run st).2) := by
  rw [lowerStep, Step.run_bind, Step.run_files]
  dsimp only
  rw [Step.run_bind, Step.run_ofExcept]
  rcases Manifest.load st.files b.cwd path with e | manifest
  · rfl
  · dsimp only
    rw [Step.run_bind]
    rcases (b.lowerUnits r (manifest.units r.outputDir)).run st with ⟨e | report, st'⟩
    · rfl
    · by_cases hs : report.succeeded = true <;> simp [judged, hs, Except.bind]

/-- A warning is all that the third step adds. -/
theorem run_publishStep (b : Builder σ) (r : Request) (report : LoweringReport)
    (st : BuildState σ) :
    ∃ sink, (b.publishStep r report).run st =
      (((b.publishObjects r report.objects).run st).1,
        { ((b.publishObjects r report.objects).run st).2 with sink }) := by
  rw [publishStep, Step.run_bind]
  rcases (b.publishObjects r report.objects).run st with ⟨e | _ | ⟨name, stderr⟩, st'⟩
  · exact ⟨st'.sink, rfl⟩
  · exact ⟨st'.sink, rfl⟩
  · rcases hblank : Text.isAllBlank stderr with _ | _
    · refine ⟨st'.sink.emit (archiveWarning stderr), ?_⟩
      simp [hblank, Step.run_bind]
    · exact ⟨st'.sink, by simp [hblank]⟩

/-- The build is its three steps, each of which starts if the one before it ended well. -/
theorem run_build (b : Builder σ) (r : Request) (st : BuildState σ) :
    (b.build r).run st =
      match (b.debaseStep r).run st with
      | (.error e, st) => (.error e, st)
      | (.ok debase, st) =>
        match (b.lowerStep r debase.manifestPath).run st with
        | (.error e, st) => (.error e, st)
        | (.ok lower, st) =>
          match (b.publishStep r lower).run st with
          | (.error e, st) => (.error e, st)
          | (.ok published, st) => (.ok { debase, lower, published }, st) := by
  rw [build, Step.run_bind]
  rcases (b.debaseStep r).run st with ⟨e | debase, st₁⟩
  · rfl
  dsimp only
  rw [Step.run_bind]
  rcases (b.lowerStep r debase.manifestPath).run st₁ with ⟨e | lower, st₂⟩
  · rfl
  dsimp only
  rw [Step.run_bind]
  rcases (b.publishStep r lower).run st₂ with ⟨e | published, st₃⟩ <;> rfl

end Builder

end ModuleBuild
