import ModuleBuild.Build.Debasing

/-!
# How the first step ends

The first step has eight ends. In two of them the tool was not called and nothing was changed, and
in a third only directories were created. In the other five the tool was called once, and only the
last one of them puts a fingerprint in its place.

## Main definitions

* `Builder.Called` — the call of the first tool, and what holds before it
* `Builder.notRefreshed` — what is left where the fingerprint cannot be kept
* `Builder.Debased` — the ends of the first step, with what leads to each of them

## Main results

* `Builder.debased_run` — the step comes to one of these ends
* `Builder.Debased.run_eq` — and to no other
-/

namespace ModuleBuild

namespace Builder

variable {σ : Type} {b : Builder σ} {r : Request} {st st' : BuildState σ}
  {answer : Except FileFault ToolOutput}

/-- The first tool was called and gave an answer. Before that its target was there, its work was not
up to date, and the directory for the units was made. -/
structure Called (b : Builder σ) (r : Request) (st : BuildState σ)
    (answer : Except FileFault ToolOutput) (st' : BuildState σ) : Prop where
  /-- The target is there. -/
  found : st.files.contains b.cwd r.targetPath = true
  /-- The work is not up to date. -/
  stale : b.isUpToDate r st.files = false
  /-- There is a directory for the units. -/
  created : (st.files.createDirectories b.cwd r.libDir).1 = .ok ()
  /-- The tool gave the answer, and left the files and the tools. -/
  run_eq : b.runner.run (b.debaseInvocation r)
    (st.files.createDirectories b.cwd r.libDir).2 st.tools = (answer, st'.files, st'.tools)
  /-- Nothing was emitted. -/
  sink_eq : st'.sink = st.sink

/-- Where the build stands after an attempt to take the fingerprint that has failed. -/
def notRefreshed (b : Builder σ) (r : Request) (st : BuildState σ) : BuildState σ :=
  { st with files := (sidecar r).afterRefresh st.files b.cwd (b.fingerprintInputs r) }

/-- The ends of the first step. -/
inductive Debased (b : Builder σ) (r : Request) (st : BuildState σ) :
    Except BuildError DebaseOutcome → BuildState σ → Prop where
  /-- There is no target. -/
  | targetMissing (missing : st.files.contains b.cwd r.targetPath = false) :
    Debased b r st (.error (.targetMissing r.targetPath)) st
  /-- The work is up to date. -/
  | cached (found : st.files.contains b.cwd r.targetPath = true)
    (fresh : b.isUpToDate r st.files = true) :
    Debased b r st (.ok ⟨r.manifestPath, none⟩) st
  /-- There is no place for the units. -/
  | notCreated {fault : FileFault} (found : st.files.contains b.cwd r.targetPath = true)
    (stale : b.isUpToDate r st.files = false)
    (failed : (st.files.createDirectories b.cwd r.libDir).1 = .error fault) :
    Debased b r st (.error (.file r.libDir fault))
      { st with files := (st.files.createDirectories b.cwd r.libDir).2 }
  /-- The tool cannot be started. -/
  | notSpawned {fault : FileFault} {st' : BuildState σ}
    (called : b.Called r st (.error fault) st') :
    Debased b r st (.error (.spawn b.toolchain.debase fault)) st'
  /-- The tool fails. -/
  | toolFailed {output : ToolOutput} {st' : BuildState σ}
    (called : b.Called r st (.ok output) st') (failed : output.succeeded = false) :
    Debased b r st
      (.error (.toolFailed (b.debaseInvocation r).toolName output.code output.stderr)) st'
  /-- The tool leaves no manifest. -/
  | manifestNotWritten {output : ToolOutput} {st' : BuildState σ}
    (called : b.Called r st (.ok output) st') (succeeded : output.succeeded = true)
    (missing : st'.files.isFile b.cwd r.manifestPath = false) :
    Debased b r st (.error (.manifestNotWritten r.manifestPath)) st'
  /-- The fingerprint cannot be taken or kept. The attempt may leave a part of it. -/
  | notRefreshed {output : ToolOutput} {st' : BuildState σ} {e : CacheError}
    (called : b.Called r st (.ok output) st') (succeeded : output.succeeded = true)
    (written : st'.files.isFile b.cwd r.manifestPath = true)
    (failed : (sidecar r).refresh st'.files b.cwd (b.fingerprintInputs r) = .error e) :
    Debased b r st (.error (.cache e)) (b.notRefreshed r st')
  /-- The fingerprint is taken anew. -/
  | refreshed {output : ToolOutput} {st' : BuildState σ} {hash : ContentHash} {files : FileTree}
    (called : b.Called r st (.ok output) st') (succeeded : output.succeeded = true)
    (written : st'.files.isFile b.cwd r.manifestPath = true)
    (kept : (sidecar r).refresh st'.files b.cwd (b.fingerprintInputs r) = .ok (hash, files)) :
    Debased b r st (.ok ⟨r.manifestPath, some (b.debaseInvocation r)⟩) { st' with files }

/-- The step without a call. -/
theorem run_debase_of_fresh (found : st.files.contains b.cwd r.targetPath = true)
    (fresh : b.isUpToDate r st.files = true) :
    (b.debase r).run st = (.ok ⟨r.manifestPath, none⟩, st) := by
  simp [debase, Step.run_bind, found, fresh]

/-- The step with a call, unless there is no place for the units. -/
theorem run_debase_of_stale (found : st.files.contains b.cwd r.targetPath = true)
    (stale : b.isUpToDate r st.files = false) :
    (b.debase r).run st = (b.runDebase r).run st := by
  simp [debase, Step.run_bind, found, stale]

/-- What comes of the step after the tool has answered. -/
theorem Called.run_debase (called : b.Called r st answer st') :
    (b.debase r).run st =
      match Step.checked (b.debaseInvocation r) answer with
      | .error e => (.error e, st')
      | .ok _ =>
        if st'.files.isFile b.cwd r.manifestPath then
          match (sidecar r).refresh st'.files b.cwd (b.fingerprintInputs r) with
          | .ok (_, files) =>
            (.ok ⟨r.manifestPath, some (b.debaseInvocation r)⟩, { st' with files })
          | .error e => (.error (.cache e), b.notRefreshed r st')
        else (.error (.manifestNotWritten r.manifestPath), st') := by
  obtain ⟨files, tools, sink⟩ := st'
  obtain rfl : sink = st.sink := called.sink_eq
  rw [run_debase_of_stale called.found called.stale, runDebase, Step.run_bind,
    Step.run_createDirectories, called.created]
  dsimp only [Except.mapError]
  rw [Step.run_bind, Step.run_callChecked, called.run_eq]
  dsimp only
  rcases Step.checked (b.debaseInvocation r) answer with e | output
  · rfl
  dsimp only
  rw [Step.run_bind, Step.run_files]
  dsimp only
  split
  · rw [Step.run_bind, refreshFingerprint, Step.run_bind, Step.run_files]
    dsimp only
    rcases (sidecar r).refresh files b.cwd (b.fingerprintInputs r) with e | ⟨hash, kept⟩
    · dsimp only
      rw [Step.run_bind, Step.run_setFiles]
      rfl
    · rfl
  · rfl

/-- **The ends of the first step.** -/
theorem debased_run (b : Builder σ) (r : Request) (st : BuildState σ) :
    b.Debased r st ((b.debase r).run st).1 ((b.debase r).run st).2 := by
  rcases found : st.files.contains b.cwd r.targetPath with _ | _
  · have hrun : (b.debase r).run st = (.error (.targetMissing r.targetPath), st) := by
      simp [debase, Step.run_bind, found]
    rw [hrun]
    exact .targetMissing found
  rcases stale : b.isUpToDate r st.files with _ | _
  case true =>
    rw [run_debase_of_fresh found stale]
    exact .cached found stale
  rcases created : (st.files.createDirectories b.cwd r.libDir).1 with fault | ⟨⟩
  · rw [run_debase_of_stale found stale, runDebase, Step.run_bind, Step.run_createDirectories,
      created]
    exact .notCreated found stale created
  rcases hcall : b.runner.run (b.debaseInvocation r)
    (st.files.createDirectories b.cwd r.libDir).2 st.tools with ⟨answer, files, tools⟩
  have called : b.Called r st answer { st with files, tools } :=
    ⟨found, stale, created, hcall, rfl⟩
  rw [called.run_debase]
  rcases answer with fault | output
  · exact .notSpawned called
  rcases succeeded : output.succeeded with _ | _
  · simp only [Step.checked, ToolOutput.check, succeeded]
    exact .toolFailed called succeeded
  simp only [Step.checked, ToolOutput.check, succeeded, if_true]
  rcases written : files.isFile b.cwd r.manifestPath with _ | _
  · exact .manifestNotWritten called succeeded written
  rw [if_pos rfl]
  rcases kept : (sidecar r).refresh files b.cwd (b.fingerprintInputs r) with e | ⟨hash, files'⟩
  · exact .notRefreshed called succeeded written kept
  · exact .refreshed called succeeded written kept

/-- The step comes to an end whenever that end's conditions are met. -/
theorem Debased.run_eq {result : Except BuildError DebaseOutcome} (h : b.Debased r st result st') :
    (b.debase r).run st = (result, st') := by
  cases h with
  | targetMissing missing => simp [debase, Step.run_bind, missing]
  | cached found fresh => exact run_debase_of_fresh found fresh
  | notCreated found stale failed =>
    rw [run_debase_of_stale found stale, runDebase, Step.run_bind, Step.run_createDirectories,
      failed]
    rfl
  | notSpawned called =>
    rw [called.run_debase]
    rfl
  | toolFailed called failed =>
    rw [called.run_debase]
    simp [Step.checked, ToolOutput.check, failed]
  | manifestNotWritten called succeeded missing =>
    rw [called.run_debase]
    simp [Step.checked, ToolOutput.check, succeeded, missing]
  | notRefreshed called succeeded written failed =>
    rw [called.run_debase]
    simp [Step.checked, ToolOutput.check, succeeded, written, failed]
  | refreshed called succeeded written kept =>
    rw [called.run_debase]
    simp [Step.checked, ToolOutput.check, succeeded, written, kept]

/-! ### A small build -/

/-- A request for an archive of one target. -/
def smallRequest : Request where
  target := ⟨"app.bc"⟩
  outputDir := ⟨"/w"⟩
  profile := .debug
  framePointer := .all
  files := []
  passthrough := []
  manifestName := "app.json"
  publish := .archive none

/-- The first tool and the target, and nothing else. -/
def smallTree : FileTree :=
  { entries := [("debase", .file [1] true), ("w", .directory [("app.bc", .file [2] false)])] }

/-- A manifest of two units. -/
def smallManifest : Bytes := Utf8.encode "\x7b\"files\": [\"lib/a.bc\", \"lib/b.bc\"]\x7d"

/-- A first tool that writes the manifest when it is called for the target, and tools that do
nothing else. -/
def smallBuilder : Builder Unit where
  runner.run i files tools :=
    if i.program = ⟨"/debase"⟩ ∧ i.arguments.head? = some "/w/app.bc" then
      match files.write [] ⟨"/w/lib/app.json"⟩ smallManifest with
      | .ok files => (.ok { code := some 0 }, files, tools)
      | .error fault => (.error fault, files, tools)
    else (.ok { code := some 0 }, files, tools)
  toolchain := ⟨⟨"/debase"⟩, ⟨"/llc"⟩⟩
  lowering := {}
  cwd := []

/-- The first step of the small build calls the tool, and after that it is up to date. -/
example :
    let first := (smallBuilder.debase smallRequest).run ⟨smallTree, (), .empty⟩
    let second := (smallBuilder.debase smallRequest).run first.2
    first.1.toOption.map DebaseOutcome.cached = some false ∧
      second.1.toOption.map DebaseOutcome.cached = some true := by
  decide +kernel

end Builder

end ModuleBuild
