import ModuleBuild.Proofs.Build.Attempts
import ModuleBuild.Proofs.Build.Debasing
import ModuleBuild.Proofs.Lowering.Order

/-!
# Why a build stops

A build may stop because a tool has failed. Then it says so with the exit code of the tool, and that
is never zero: a tool that ends with code zero has not failed. This is so for each of the three
steps, and so for the build.

## Main definitions

* `BuildError.OfFailure` — no tool is said to have failed with code zero

## Main results

* `BuildError.OfFailure.exitCode_eq` — the exit code of a tool that has failed is its own
* `Builder.eq_file_of_run_lowerUnits` — what can stop the lowering of some units
* `Builder.ofFailure_of_build` — why a build stops
-/

namespace ModuleBuild

variable {σ : Type}

/-- If it is a tool that failed, then it has not ended with code zero. -/
def BuildError.OfFailure (e : BuildError) : Prop :=
  ∀ tool stderr, e ≠ .toolFailed tool (some 0) stderr

/-- Any other reason than the failure of a tool. -/
theorem BuildError.ofFailure_of_ne {e : BuildError}
    (h : ∀ tool code stderr, e ≠ .toolFailed tool code stderr) : e.OfFailure :=
  fun tool stderr => h tool (some 0) stderr

/-- The exit code of a tool that has failed is its own. -/
theorem BuildError.OfFailure.exitCode_eq {tool stderr : String} {code : Int}
    (h : OfFailure (.toolFailed tool (some code) stderr)) :
    exitCode (.toolFailed tool (some code) stderr) = code := by
  by_cases hzero : code = 0
  · exact absurd (hzero ▸ rfl) (h tool stderr)
  · simp [exitCode, hzero]

theorem Step.ofFailure_of_checked {i : Invocation} {answer : Except FileFault ToolOutput}
    {e : BuildError} (h : Step.checked i answer = .error e) : e.OfFailure := by
  rcases answer with fault | output
  · obtain rfl := Except.error.inj h
    exact BuildError.ofFailure_of_ne (by simp)
  · simp only [Step.checked, ToolOutput.check] at h
    split at h
    · simp at h
    · rename_i hfailed
      obtain rfl := Except.error.inj h
      intro tool stderr heq
      simp [ToolOutput.succeeded, (BuildError.toolFailed.inj heq).2.1] at hfailed

theorem Manifest.ofFailure_of_load {files : FileTree} {cwd : Location} {path : Path}
    {e : BuildError} (h : load files cwd path = .error e) : e.OfFailure := by
  unfold load parse at h
  split at h
  · split at h
    · simp at h
    · obtain rfl := Except.error.inj h
      exact BuildError.ofFailure_of_ne (by simp)
    · obtain rfl := Except.error.inj h
      exact BuildError.ofFailure_of_ne (by simp)
  · obtain rfl := Except.error.inj h
    exact BuildError.ofFailure_of_ne (by simp)

namespace Builder

variable {b : Builder σ} {r : Request} {st st' : BuildState σ} {e : BuildError}

theorem Debased.ofFailure (h : b.Debased r st (.error e) st') : e.OfFailure := by
  cases h with
  | toolFailed called failed =>
    intro tool stderr heq
    simp [ToolOutput.succeeded, (BuildError.toolFailed.inj heq).2.1] at failed
  | targetMissing | notCreated | notSpawned | manifestNotWritten | notRefreshed =>
    exact BuildError.ofFailure_of_ne (by simp)

/-- Nothing stops the lowering of some units but that there is no directory for the objects. -/
theorem eq_file_of_run_lowerUnits {units : List Path}
    (h : (b.lowerUnits r units).run st = (.error e, st')) : ∃ fault, e = .file r.optDir fault := by
  have hmake := Step.run_createDirectories b.cwd r.optDir st
  rcases hdir : (st.files.createDirectories b.cwd r.optDir).1 with fault | ⟨⟩
  · rw [hdir] at hmake
    rw [lowerUnits, run_lowerBatch_of_error hmake] at h
    exact ⟨fault, (Except.error.inj (Prod.mk.inj h).1).symm⟩
  · rw [hdir] at hmake
    obtain ⟨found, tried, st'', hbatch, -⟩ := run_runBatch_recorded (answers_map_lowerOne b r units)
      b { st with files := (st.files.createDirectories b.cwd r.optDir).2 }
    rw [lowerUnits, run_lowerBatch hmake hbatch] at h
    simp at h

theorem ofFailure_of_lowerStep {path : Path}
    (h : ((b.lowerStep r path).run st).1 = .error e) : e.OfFailure := by
  rw [run_lowerStep] at h
  split at h
  · rename_i e' hload
    obtain rfl := Except.error.inj h
    exact Manifest.ofFailure_of_load hload
  · rename_i manifest hload
    rcases hrun : (b.lowerUnits r (manifest.units r.outputDir)).run st with ⟨e' | report, st''⟩
    · rw [hrun] at h
      obtain ⟨fault, rfl⟩ := eq_file_of_run_lowerUnits hrun
      obtain rfl := Except.error.inj h
      exact BuildError.ofFailure_of_ne (by simp)
    · simp only [hrun, Except.bind, judged] at h
      split at h
      · simp at h
      · obtain rfl := Except.error.inj h
        exact BuildError.ofFailure_of_ne (by simp)

theorem ofFailure_of_publishStep {report : LoweringReport}
    (h : ((b.publishStep r report).run st).1 = .error e) : e.OfFailure := by
  obtain ⟨sink, hrun⟩ := run_publishStep b r report st
  rw [hrun] at h
  rcases hmode : r.publish with path | name
  · rw [run_publishObjects_response b hmode] at h
    split at h
    · simp at h
    · obtain rfl := Except.error.inj h
      exact BuildError.ofFailure_of_ne (by simp)
  · rw [run_publishObjects_archive b hmode] at h
    rcases hchecked : Step.checked (b.archiveInvocation r name report.objects)
      (b.runner.run (b.archiveInvocation r name report.objects) st.files st.tools).1 with
      e' | output
    · simp only [hchecked, Except.map] at h
      obtain rfl := Except.error.inj h
      exact Step.ofFailure_of_checked hchecked
    · simp [hchecked, Except.map] at h

/-- **Why a build stops.** No tool is said to have failed that ended with code zero. -/
theorem ofFailure_of_build (h : ((b.build r).run st).1 = .error e) : e.OfFailure := by
  rw [run_build] at h
  rcases hfirst : (b.debaseStep r).run st with ⟨e₁ | debase, st₁⟩
  · rw [hfirst] at h
    obtain rfl := Except.error.inj h
    obtain ⟨sink, hstep⟩ := run_debaseStep b r st
    have hends := debased_run b r st
    rw [hstep, Prod.mk.injEq] at hfirst
    rw [hfirst.1] at hends
    exact hends.ofFailure
  rcases hsecond : (b.lowerStep r debase.manifestPath).run st₁ with ⟨e₂ | lower, st₂⟩
  · simp only [hfirst, hsecond] at h
    obtain rfl := Except.error.inj h
    exact ofFailure_of_lowerStep (congrArg Prod.fst hsecond)
  rcases hthird : (b.publishStep r lower).run st₂ with ⟨e₃ | published, st₃⟩
  · simp only [hfirst, hsecond, hthird] at h
    obtain rfl := Except.error.inj h
    exact ofFailure_of_publishStep (congrArg Prod.fst hthird)
  · simp [hfirst, hsecond, hthird] at h

end Builder

end ModuleBuild
