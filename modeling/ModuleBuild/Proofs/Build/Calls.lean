import ModuleBuild.Proofs.Build.Tally
import ModuleBuild.Proofs.Cache.Snapshot

/-!
# The tool calls of a build

A build that lowers one unit at a time calls the first tool at most once, then the lowering tool for
the first units of the manifest, and then, if every unit was lowered and an archive is asked for,
the first tool again. A build that fails before that publishes nothing: what the calls leave is
left, but for directories that were created and for the file of the fingerprint.

## Main definitions

* `Builder.DebaseLeaves`, `Builder.LowerLeaves`, `Builder.Publishes` — what each step does to the
  files, by its calls
* `Builder.Listed` — the units that the first step has left
* `Builder.BuildTrace` — the calls of a build, step by step, and what they say of its end

## Main results

* `Builder.Debased.log`, `Builder.log_lowerUnits`, `Builder.log_publishStep` — the calls of each
  step
* `Builder.buildTrace` — the calls of the whole build
-/

namespace ModuleBuild

namespace Builder

variable {σ : Type} {b : Builder σ} {r : Request} {st st' : BuildState (List Call × σ)}
  {answer : Except FileFault ToolOutput}

/-! ### The first step -/

theorem Called.log (h : b.logging.Called r st answer st') :
    st'.tools.1 = st.tools.1 ++ [(b.debaseInvocation r, answer)] := by
  have hrun := h.run_eq
  rw [logging, withRunner, Runner.run_noting, Prod.mk.injEq, Prod.mk.injEq] at hrun
  obtain ⟨hanswer, -, htools⟩ := hrun
  rw [← htools, hanswer]
  rfl

/-- What the first step leaves of the files, by the calls that it makes. It changes nothing; or it
creates the directory for the units, and then what its call leaves is left, but for the file of the
fingerprint if it is to be taken anew. -/
inductive DebaseLeaves (b : Builder σ) (r : Request) (st : BuildState (List Call × σ)) :
    List Call → FileTree → Prop where
  /-- Nothing is changed. -/
  | untouched : DebaseLeaves b r st [] st.files
  /-- Directories are created. -/
  | created : DebaseLeaves b r st [] (st.files.createDirectories b.cwd r.libDir).2
  /-- The tool is called. -/
  | called {result : Except FileFault ToolOutput} {left : FileTree} {tools : σ}
    (run_eq : b.runner.run (b.debaseInvocation r)
      (st.files.createDirectories b.cwd r.libDir).2 st.tools.2 = (result, left, tools)) :
    DebaseLeaves b r st [(b.debaseInvocation r, result)] left
  /-- The tool ends well with a manifest, and the fingerprint is to be taken anew. -/
  | refreshed {output : ToolOutput} {left : FileTree} {tools : σ}
    (run_eq : b.runner.run (b.debaseInvocation r)
      (st.files.createDirectories b.cwd r.libDir).2 st.tools.2 = (.ok output, left, tools))
    (succeeded : output.succeeded = true) (written : left.isFile b.cwd r.manifestPath = true) :
    DebaseLeaves b r st [(b.debaseInvocation r, .ok output)]
      ((sidecar r).afterRefresh left b.cwd (b.fingerprintInputs r))

/-- The first step calls the first tool once or not at all. -/
theorem DebaseLeaves.calls_eq {calls : List Call} {files : FileTree}
    (h : b.DebaseLeaves r st calls files) :
    calls = [] ∨ ∃ answer, calls = [(b.debaseInvocation r, answer)] := by
  cases h with
  | untouched => exact .inl rfl
  | created => exact .inl rfl
  | called => exact .inr ⟨_, rfl⟩
  | refreshed => exact .inr ⟨_, rfl⟩

theorem Called.run_runner (h : b.logging.Called r st answer st') :
    b.runner.run (b.debaseInvocation r) (st.files.createDirectories b.cwd r.libDir).2 st.tools.2 =
      (answer, st'.files, st'.tools.2) := by
  have hrun := h.run_eq
  rw [logging, withRunner, Runner.run_noting, Prod.mk.injEq, Prod.mk.injEq] at hrun
  obtain ⟨hanswer, hleft, htools⟩ := hrun
  rw [← hanswer, ← hleft, ← htools]
  rfl

/-- What each end of the first step leaves. -/
theorem Debased.leaves {result : Except BuildError DebaseOutcome}
    (h : b.logging.Debased r st result st') :
    ∃ calls, st'.tools.1 = st.tools.1 ++ calls ∧ b.DebaseLeaves r st calls st'.files := by
  cases h with
  | targetMissing => exact ⟨[], (List.append_nil _).symm, .untouched⟩
  | cached => exact ⟨[], (List.append_nil _).symm, .untouched⟩
  | notCreated => exact ⟨[], (List.append_nil _).symm, .created⟩
  | notSpawned called => exact ⟨_, called.log, .called called.run_runner⟩
  | toolFailed called => exact ⟨_, called.log, .called called.run_runner⟩
  | manifestNotWritten called => exact ⟨_, called.log, .called called.run_runner⟩
  | notRefreshed called succeeded written =>
    exact ⟨_, called.log, .refreshed called.run_runner succeeded written⟩
  | @refreshed output st' hash files called succeeded written kept =>
    obtain rfl := Sidecar.afterRefresh_of_ok kept
    exact ⟨_, called.log, .refreshed called.run_runner succeeded written⟩

/-- The first step calls the first tool once or not at all. -/
theorem Debased.log {result : Except BuildError DebaseOutcome}
    (h : b.logging.Debased r st result st') :
    ∃ calls, st'.tools.1 = st.tools.1 ++ calls ∧
      (calls = [] ∨ ∃ answer, calls = [(b.debaseInvocation r, answer)]) := by
  obtain ⟨calls, hlog, hleaves⟩ := h.leaves
  exact ⟨calls, hlog, hleaves.calls_eq⟩

theorem log_debaseStep (b : Builder σ) (r : Request) (st : BuildState (List Call × σ)) :
    ∃ calls, ((b.logging.debaseStep r).run st).2.tools.1 = st.tools.1 ++ calls ∧
      b.DebaseLeaves r st calls ((b.logging.debaseStep r).run st).2.files := by
  obtain ⟨sink, hrun⟩ := run_debaseStep b.logging r st
  rw [hrun]
  exact (debased_run b.logging r st).leaves

/-! ### The second step -/

/-- All units were lowered: there was a call for each of them, and none failed. -/
def LoweredAll (b : Builder σ) (r : Request) (units : List Path) (calls : List Call) : Prop :=
  calls.map Prod.fst = units.map (b.lowerInvocation r) ∧ ∀ call ∈ calls, call.Succeeded

/-- Lowering some units in turn: the calls are those for the first of them, what they leave is left,
and the report is one of success if all of them were lowered. -/
theorem log_lowerUnits (hjobs : b.lowering.jobs ≤ 1) (r : Request) (units : List Path)
    (st : BuildState (List Call × σ)) :
    ∃ calls, ((b.logging.lowerUnits r units).run st).2.tools.1 = st.tools.1 ++ calls ∧
      calls.map Prod.fst <+: units.map (b.lowerInvocation r) ∧
      ((b.logging.lowerUnits r units).run st).2.files = (b.runner.after (calls.map Prod.fst)
        ((st.files.createDirectories b.cwd r.optDir).2, st.tools.2)).1 ∧
      ((∃ e, ((b.logging.lowerUnits r units).run st).1 = .error e ∧
        (st.files.createDirectories b.cwd r.optDir).1 ≠ .ok ()) ∨
      ∃ report, ((b.logging.lowerUnits r units).run st).1 = .ok report ∧
        (st.files.createDirectories b.cwd r.optDir).1 = .ok () ∧
        (report.succeeded = true → report.objects = units.map Request.objectFor) ∧
        (report.succeeded = true ↔ b.LoweredAll r units calls)) := by
  rcases hdir : (st.files.createDirectories b.cwd r.optDir).1 with fault | ⟨⟩
  · have hrun := run_lowerUnits_of_error units hdir
    refine ⟨[], ?_, List.nil_prefix, ?_, .inl ⟨.file r.optDir fault, ?_, by simp⟩⟩
    · rw [hrun, List.append_nil]
    · rw [hrun]
      rfl
    · rw [hrun]
  · obtain ⟨attempts, report, st', h⟩ := exists_tally hjobs units hdir
    refine ⟨attempts.map Attempt.call, ?_, ?_, ?_, .inr ⟨report, ?_, rfl, ?_, ?_⟩⟩
    · rw [h.run_eq]
      exact h.log_eq
    · rw [h.invocations_eq, h.units_eq]
      exact (List.take_prefix _ units).map _
    · rw [h.run_eq, List.map_map]
      exact congrArg Prod.fst h.left_eq
    · rw [h.run_eq]
    · exact h.objects_eq_of_succeeded
    · have hnone : report.succeeded = true ↔
          ∀ call ∈ attempts.map Attempt.call, call.Succeeded := by
        rw [h.succeeded_iff, h.failures_eq, failuresOf_eq_nil_iff, List.forall_mem_map]
        simp only [Attempt.hasFailed_eq_false_iff]
      constructor
      · intro hs
        refine ⟨?_, hnone.1 hs⟩
        rw [h.invocations_eq, h.units_eq_of_succeeded hs]
      · intro hall
        exact hnone.2 hall.2

/-- What the second step leaves of the files, by the calls that it makes: without a manifest it
changes nothing, and otherwise it creates the directory for the objects, and then what its calls
leave is left. -/
def LowerLeaves (b : Builder σ) (r : Request) (path : Path) (st : BuildState (List Call × σ))
    (calls : List Call) (files : FileTree) : Prop :=
  match Manifest.load st.files b.cwd path with
  | .error _ => calls = [] ∧ files = st.files
  | .ok _ => files = (b.runner.after (calls.map Prod.fst)
      ((st.files.createDirectories b.cwd r.optDir).2, st.tools.2)).1

/-- The second step in turn. It ends well if there is a manifest, a directory for the objects, and
all units were lowered. -/
theorem log_lowerStep (hjobs : b.lowering.jobs ≤ 1) (r : Request) (path : Path)
    (st : BuildState (List Call × σ)) :
    ∃ calls, ((b.logging.lowerStep r path).run st).2.tools.1 = st.tools.1 ++ calls ∧
      b.LowerLeaves r path st calls ((b.logging.lowerStep r path).run st).2.files ∧
      (calls ≠ [] → ∃ manifest, Manifest.load st.files b.cwd path = .ok manifest ∧
        calls.map Prod.fst <+: (manifest.units r.outputDir).map (b.lowerInvocation r)) ∧
      (∀ report, ((b.logging.lowerStep r path).run st).1 = .ok report →
        ∃ manifest, Manifest.load st.files b.cwd path = .ok manifest ∧
          b.LoweredAll r (manifest.units r.outputDir) calls ∧
          report.objects = (manifest.units r.outputDir).map Request.objectFor) ∧
      ((∃ report, ((b.logging.lowerStep r path).run st).1 = .ok report) ↔
        ∃ manifest, Manifest.load st.files b.cwd path = .ok manifest ∧
          (st.files.createDirectories b.cwd r.optDir).1 = .ok () ∧
          b.LoweredAll r (manifest.units r.outputDir) calls) := by
  rw [run_lowerStep]
  unfold LowerLeaves
  rcases hload : Manifest.load st.files b.logging.cwd path with e | manifest
  · replace hload : Manifest.load st.files b.cwd path = .error e := hload
    exact ⟨[], by simp [hload]⟩
  replace hload : Manifest.load st.files b.cwd path = .ok manifest := hload
  simp only [hload]
  obtain ⟨calls, hlog, hpart, hleft, ⟨e, hrun, hdir⟩ | ⟨report, hrun, hdir, hobjects, hiff⟩⟩ :=
    log_lowerUnits hjobs r (manifest.units r.outputDir) st
  · refine ⟨calls, hlog, hleft, fun _ => ⟨manifest, rfl, hpart⟩, ?_, ?_⟩
    · simp [hrun, Except.bind]
    · simp [hrun, hdir, Except.bind]
  · refine ⟨calls, hlog, hleft, fun _ => ⟨manifest, rfl, hpart⟩, ?_, ?_⟩
    · intro report' hreport
      rw [hrun] at hreport
      obtain ⟨hs, rfl⟩ := judged_eq_ok.1 hreport
      exact ⟨manifest, rfl, hiff.1 hs, hobjects hs⟩
    · rw [hrun]
      constructor
      · rintro ⟨report', hreport⟩
        exact ⟨manifest, rfl, hdir, hiff.1 (judged_eq_ok.1 hreport).1⟩
      · rintro ⟨manifest', hload', -, hall⟩
        obtain rfl := Except.ok.inj hload'
        exact ⟨report, judged_eq_ok.2 ⟨hiff.2 hall, rfl⟩⟩

/-! ### The third step -/

/-- What the third step does for some objects: it writes the response file, as far as there is room,
and calls no tool, or it makes the call for the archive and nothing else. -/
def Publishes (b : Builder σ) (r : Request) (objects : List Path)
    (st : BuildState (List Call × σ)) (calls : List Call) (files : FileTree) : Prop :=
  match r.publish with
  | .response path =>
    let content := Utf8.encode (responseText objects)
    calls = [] ∧
      match st.files.write b.cwd path content with
      | .ok written => files = written
      | .error _ => files = st.files.afterWrite b.cwd path content
  | .archive name =>
    let made := b.runner.run (b.archiveInvocation r name objects) st.files st.tools.2
    calls = [(b.archiveInvocation r name objects, made.1)] ∧ files = made.2.1

/-- The third step is carried out well: the response file can be written, or the call for the
archive ends with code zero. -/
def CanPublish (b : Builder σ) (r : Request) (objects : List Path)
    (st : BuildState (List Call × σ)) : Prop :=
  match r.publish with
  | .response path =>
    ∃ files, st.files.write b.cwd path (Utf8.encode (responseText objects)) = .ok files
  | .archive name =>
    Call.Succeeded (b.archiveInvocation r name objects,
      (b.runner.run (b.archiveInvocation r name objects) st.files st.tools.2).1)

/-- What the answer to a call that must end well is used for, if the call succeeded. -/
theorem checked_map_eq_ok {α : Type} {i : Invocation} {f : ToolOutput → α} {a : α} :
    (Step.checked i answer).map f = .ok a ↔
      ∃ output, answer = .ok output ∧ output.code = some 0 ∧ f output = a := by
  rcases answer with fault | output
  · simp [Step.checked, Except.map]
  · by_cases h : output.code = some 0
    · simp [Step.checked, ToolOutput.check, ToolOutput.succeeded, Except.map, h]
    · simp [Step.checked, ToolOutput.check, ToolOutput.succeeded, Except.map, h]

/-- The answer to a call that must end well is used if the call succeeded. -/
theorem exists_checked_map_iff {α : Type} {i : Invocation} {f : ToolOutput → α} :
    (∃ a, (Step.checked i answer).map f = .ok a) ↔ Call.Succeeded (i, answer) := by
  simp only [checked_map_eq_ok]
  constructor
  · rintro ⟨a, output, hanswer, hcode, -⟩
    exact ⟨output, hanswer, hcode⟩
  · rintro ⟨output, hanswer, hcode⟩
    exact ⟨f output, output, hanswer, hcode, rfl⟩

/-- The calls of the third step. -/
theorem log_publishStep (b : Builder σ) (r : Request) (report : LoweringReport)
    (st : BuildState (List Call × σ)) :
    ∃ calls, ((b.logging.publishStep r report).run st).2.tools.1 = st.tools.1 ++ calls ∧
      b.Publishes r report.objects st calls ((b.logging.publishStep r report).run st).2.files ∧
      ((∃ published, ((b.logging.publishStep r report).run st).1 = .ok published) ↔
        b.CanPublish r report.objects st) := by
  obtain ⟨sink, hrun⟩ := run_publishStep b.logging r report st
  rw [hrun]
  unfold Publishes CanPublish
  rcases hmode : r.publish with path | name
  · rw [run_publishObjects_response b.logging hmode]
    rcases hwrite : st.files.write b.logging.cwd path
      (Utf8.encode (responseText report.objects)) with fault | files
    · replace hwrite : st.files.write b.cwd path _ = .error fault := hwrite
      exact ⟨[], by simp [hwrite, logging, withRunner]⟩
    · replace hwrite : st.files.write b.cwd path _ = .ok files := hwrite
      exact ⟨[], by simp [hwrite]⟩
  · rw [run_publishObjects_archive b.logging hmode]
    refine ⟨_, rfl, ⟨rfl, rfl⟩, ?_⟩
    exact exists_checked_map_iff

/-! ### The whole build -/

/-- The units that the first step has left in a manifest, and the state after that step. -/
def Listed (b : Builder σ) (r : Request) (st : BuildState (List Call × σ)) (units : List Path)
    (st₁ : BuildState (List Call × σ)) : Prop :=
  ∃ debase manifest, (b.logging.debaseStep r).run st = (.ok debase, st₁) ∧
    Manifest.load st₁.files b.cwd debase.manifestPath = .ok manifest ∧
    units = manifest.units r.outputDir

/-- The calls of a build, step by step, and what they say of its end. -/
structure BuildTrace (b : Builder σ) (r : Request) (st : BuildState (List Call × σ))
    (debasing lowering archiving : List Call) : Prop where
  /-- The build with a log is the build without it. -/
  run_forget : (b.build r).run st.forget =
    (((b.logging.build r).run st).1, ((b.logging.build r).run st).2.forget)
  /-- These are all calls, in order. -/
  log_eq : ((b.logging.build r).run st).2.tools.1 =
    st.tools.1 ++ (debasing ++ lowering ++ archiving)
  /-- The first step leaves what its call leaves, but for directories and the fingerprint. -/
  debase_leaves : b.DebaseLeaves r st debasing ((b.logging.debaseStep r).run st).2.files
  /-- The first tool is called once or not at all. -/
  debasing_eq : debasing = [] ∨ ∃ answer, debasing = [(b.debaseInvocation r, answer)]
  /-- Units are lowered only if the first step ends well with a manifest: the first units of it, in
  its order. -/
  lowering_prefix : lowering ≠ [] → ∃ units st₁, b.Listed r st units st₁ ∧
    lowering.map Prod.fst <+: units.map (b.lowerInvocation r)
  /-- The second step leaves what these calls leave, but for directories. -/
  lower_leaves : ∀ {debase st₁}, (b.logging.debaseStep r).run st = (.ok debase, st₁) →
    b.LowerLeaves r debase.manifestPath st₁ lowering
      ((b.logging.lowerStep r debase.manifestPath).run st₁).2.files
  /-- An archive is made if one is asked for, once or not at all. -/
  archiving_eq : archiving = [] ∨ ∃ name objects answer, r.publish = .archive name ∧
    archiving = [(b.archiveInvocation r name objects, answer)]
  /-- If the first step fails, then the build is over, and what that step leaves is left. -/
  debase_stopped : ∀ {e st₁}, (b.logging.debaseStep r).run st = (.error e, st₁) →
    (b.logging.build r).run st = (.error e, st₁) ∧ lowering = [] ∧ archiving = []
  /-- If the second step fails, then the build is over, and what that step leaves is left. -/
  lower_stopped : ∀ {debase st₁ e st₂}, (b.logging.debaseStep r).run st = (.ok debase, st₁) →
    (b.logging.lowerStep r debase.manifestPath).run st₁ = (.error e, st₂) →
    (b.logging.build r).run st = (.error e, st₂) ∧ archiving = []
  /-- Otherwise every unit was lowered, and the objects are published in their order. -/
  published : ∀ {debase st₁ report st₂}, (b.logging.debaseStep r).run st = (.ok debase, st₁) →
    (b.logging.lowerStep r debase.manifestPath).run st₁ = (.ok report, st₂) →
    ∃ units, b.Listed r st units st₁ ∧ b.LoweredAll r units lowering ∧
      b.Publishes r (units.map Request.objectFor) st₂ archiving
        ((b.logging.build r).run st).2.files
  /-- The build ends well if the first step does, there is a manifest and a directory for the
  objects, every unit is lowered, and the objects can be published. -/
  succeeded_iff : (∃ outcome, ((b.logging.build r).run st).1 = .ok outcome) ↔
    ∃ debase st₁ manifest, (b.logging.debaseStep r).run st = (.ok debase, st₁) ∧
      Manifest.load st₁.files b.cwd debase.manifestPath = .ok manifest ∧
      (st₁.files.createDirectories b.cwd r.optDir).1 = .ok () ∧
      b.LoweredAll r (manifest.units r.outputDir) lowering ∧
      b.CanPublish r ((manifest.units r.outputDir).map Request.objectFor)
        ((b.logging.lowerStep r debase.manifestPath).run st₁).2

/-- The third step makes one call at most, and that for an archive. -/
theorem Publishes.calls_eq {objects : List Path} {calls : List Call} {files : FileTree}
    (h : b.Publishes r objects st calls files) :
    calls = [] ∨ ∃ name objects answer, r.publish = .archive name ∧
      calls = [(b.archiveInvocation r name objects, answer)] := by
  unfold Publishes at h
  split at h
  · exact .inl h.1
  · rename_i name hmode
    exact .inr ⟨name, objects, _, hmode, h.1⟩

/-- A build that the first step stops. -/
theorem buildTrace_of_debase_error {debasing : List Call} {e : BuildError}
    (hfirst : (b.logging.debaseStep r).run st = (.error e, st'))
    (hlog : st'.tools.1 = st.tools.1 ++ debasing)
    (hleaves : b.DebaseLeaves r st debasing st'.files) :
    b.BuildTrace r st debasing [] [] := by
  have hbuild : (b.logging.build r).run st = (.error e, st') := by
    rw [run_build, hfirst]
  constructor
  case run_forget => exact forgets_build st
  case log_eq => rw [hbuild, hlog, List.append_nil, List.append_nil]
  case debase_leaves => rwa [hfirst]
  case debasing_eq => exact hleaves.calls_eq
  case lowering_prefix => exact fun h => absurd rfl h
  case lower_leaves =>
    intro debase st₁ h
    simp [hfirst] at h
  case archiving_eq => exact .inl rfl
  case debase_stopped =>
    intro e' st₁ h
    obtain ⟨rfl, rfl⟩ := by simpa using hfirst.symm.trans h
    exact ⟨hbuild, rfl, rfl⟩
  case lower_stopped =>
    intro debase st₁ e' st₂ h
    simp [hfirst] at h
  case published =>
    intro debase st₁ report st₂ h
    simp [hfirst] at h
  case succeeded_iff => simp [hbuild, hfirst]

/-- A build that the second step stops. -/
theorem buildTrace_of_lower_error {debasing lowering : List Call} {debase : DebaseOutcome}
    {st₁ : BuildState (List Call × σ)} {e : BuildError}
    (hfirst : (b.logging.debaseStep r).run st = (.ok debase, st₁))
    (hsecond : (b.logging.lowerStep r debase.manifestPath).run st₁ = (.error e, st'))
    (hlog : st'.tools.1 = st.tools.1 ++ (debasing ++ lowering))
    (hdebasing : b.DebaseLeaves r st debasing st₁.files)
    (hlowering : b.LowerLeaves r debase.manifestPath st₁ lowering st'.files)
    (hpart : lowering ≠ [] → ∃ units st₁, b.Listed r st units st₁ ∧
      lowering.map Prod.fst <+: units.map (b.lowerInvocation r))
    (hnot : ¬ ∃ manifest, Manifest.load st₁.files b.cwd debase.manifestPath = .ok manifest ∧
      (st₁.files.createDirectories b.cwd r.optDir).1 = .ok () ∧
      b.LoweredAll r (manifest.units r.outputDir) lowering) :
    b.BuildTrace r st debasing lowering [] := by
  have hbuild : (b.logging.build r).run st = (.error e, st') := by
    rw [run_build, hfirst]
    dsimp only
    rw [hsecond]
  constructor
  case run_forget => exact forgets_build st
  case log_eq => rw [hbuild, hlog, List.append_nil]
  case debase_leaves => rwa [hfirst]
  case debasing_eq => exact hdebasing.calls_eq
  case lowering_prefix => exact hpart
  case lower_leaves =>
    intro debase' st₁' h
    obtain ⟨rfl, rfl⟩ := by simpa using hfirst.symm.trans h
    rwa [hsecond]
  case archiving_eq => exact .inl rfl
  case debase_stopped =>
    intro e' st₁' h
    simp [hfirst] at h
  case lower_stopped =>
    intro debase' st₁' e' st₂' h h'
    obtain ⟨rfl, rfl⟩ := by simpa using hfirst.symm.trans h
    obtain ⟨rfl, rfl⟩ := by simpa using hsecond.symm.trans h'
    exact ⟨hbuild, rfl⟩
  case published =>
    intro debase' st₁' report st₂' h h'
    obtain ⟨rfl, rfl⟩ := by simpa using hfirst.symm.trans h
    simp [hsecond] at h'
  case succeeded_iff =>
    refine iff_of_false (by simp [hbuild]) ?_
    rintro ⟨debase', st₁', manifest, h, hload, hdir, hall, -⟩
    obtain ⟨rfl, rfl⟩ := by simpa using hfirst.symm.trans h
    exact hnot ⟨manifest, hload, hdir, hall⟩

/-- A build that comes to its third step. -/
theorem buildTrace_of_lower_ok {debasing lowering archiving : List Call} {debase : DebaseOutcome}
    {st₁ st₂ : BuildState (List Call × σ)} {report : LoweringReport} {manifest : Manifest}
    (hfirst : (b.logging.debaseStep r).run st = (.ok debase, st₁))
    (hsecond : (b.logging.lowerStep r debase.manifestPath).run st₁ = (.ok report, st₂))
    (hlog : ((b.logging.publishStep r report).run st₂).2.tools.1 =
      st.tools.1 ++ (debasing ++ lowering ++ archiving))
    (hdebasing : b.DebaseLeaves r st debasing st₁.files)
    (hlowering : b.LowerLeaves r debase.manifestPath st₁ lowering st₂.files)
    (hload : Manifest.load st₁.files b.cwd debase.manifestPath = .ok manifest)
    (hdir : (st₁.files.createDirectories b.cwd r.optDir).1 = .ok ())
    (hall : b.LoweredAll r (manifest.units r.outputDir) lowering)
    (hpublishes : b.Publishes r ((manifest.units r.outputDir).map Request.objectFor) st₂ archiving
      ((b.logging.publishStep r report).run st₂).2.files)
    (hcan : (∃ published, ((b.logging.publishStep r report).run st₂).1 = .ok published) ↔
      b.CanPublish r ((manifest.units r.outputDir).map Request.objectFor) st₂) :
    b.BuildTrace r st debasing lowering archiving := by
  have hlisted : b.Listed r st (manifest.units r.outputDir) st₁ :=
    ⟨debase, manifest, hfirst, hload, rfl⟩
  have hbuild : ((b.logging.build r).run st).2 = ((b.logging.publishStep r report).run st₂).2 ∧
      ((∃ outcome, ((b.logging.build r).run st).1 = .ok outcome) ↔
        ∃ published, ((b.logging.publishStep r report).run st₂).1 = .ok published) := by
    rw [run_build, hfirst]
    dsimp only
    rw [hsecond]
    dsimp only
    rcases (b.logging.publishStep r report).run st₂ with ⟨e | published, st₃⟩ <;> simp
  constructor
  case run_forget => exact forgets_build st
  case log_eq => rw [hbuild.1, hlog]
  case debase_leaves => rwa [hfirst]
  case debasing_eq => exact hdebasing.calls_eq
  case lowering_prefix => exact fun _ => ⟨_, st₁, hlisted, hall.1 ▸ List.prefix_refl _⟩
  case lower_leaves =>
    intro debase' st₁' h
    obtain ⟨rfl, rfl⟩ := by simpa using hfirst.symm.trans h
    rwa [hsecond]
  case archiving_eq => exact hpublishes.calls_eq
  case debase_stopped =>
    intro e st₁' h
    simp [hfirst] at h
  case lower_stopped =>
    intro debase' st₁' e st₂' h h'
    obtain ⟨rfl, rfl⟩ := by simpa using hfirst.symm.trans h
    simp [hsecond] at h'
  case published =>
    intro debase' st₁' report' st₂' h h'
    obtain ⟨rfl, rfl⟩ := by simpa using hfirst.symm.trans h
    obtain ⟨rfl, rfl⟩ := by simpa using hsecond.symm.trans h'
    exact ⟨_, hlisted, hall, hbuild.1 ▸ hpublishes⟩
  case succeeded_iff =>
    rw [hbuild.2, hcan]
    constructor
    · exact fun h => ⟨debase, st₁, manifest, hfirst, hload, hdir, hall, by rwa [hsecond]⟩
    · rintro ⟨debase', st₁', manifest', h, hload', -, -, hcan'⟩
      obtain ⟨rfl, rfl⟩ := by simpa using hfirst.symm.trans h
      obtain rfl := Except.ok.inj (hload.symm.trans hload')
      rwa [hsecond] at hcan'

/-- **The tool calls of a build.** -/
theorem buildTrace (hjobs : b.lowering.jobs ≤ 1) (r : Request) (st : BuildState (List Call × σ)) :
    ∃ debasing lowering archiving, b.BuildTrace r st debasing lowering archiving := by
  obtain ⟨debasing, hdebase, hdebasing⟩ := log_debaseStep b r st
  rcases hfirst : (b.logging.debaseStep r).run st with ⟨e | debase, st₁⟩
  · rw [hfirst] at hdebase hdebasing
    exact ⟨debasing, [], [], buildTrace_of_debase_error hfirst hdebase hdebasing⟩
  obtain ⟨lowering, hlower, hlowering, hpart, hlowered, hiff⟩ :=
    log_lowerStep hjobs r debase.manifestPath st₁
  rcases hsecond : (b.logging.lowerStep r debase.manifestPath).run st₁ with ⟨e | report, st₂⟩
  · rw [hfirst] at hdebase hdebasing
    rw [hsecond] at hlower hlowering hiff
    refine ⟨debasing, lowering, [],
      buildTrace_of_lower_error hfirst hsecond ?_ hdebasing hlowering ?_ ?_⟩
    · rw [hlower, hdebase, List.append_assoc]
    · intro h
      obtain ⟨manifest, hload, hm⟩ := hpart h
      exact ⟨_, st₁, ⟨debase, manifest, hfirst, hload, rfl⟩, hm⟩
    · simpa using hiff
  · rw [hfirst] at hdebase hdebasing
    rw [hsecond] at hlower hlowering hiff hlowered
    obtain ⟨archiving, harchive, hpublishes, hcan⟩ := log_publishStep b r report st₂
    obtain ⟨manifest, hload, hall, hobjects⟩ := hlowered report rfl
    obtain ⟨manifest', -, hdir, -⟩ := hiff.1 ⟨report, rfl⟩
    rw [hobjects] at hpublishes hcan
    refine ⟨debasing, lowering, archiving, buildTrace_of_lower_ok hfirst hsecond ?_ hdebasing
      hlowering hload hdir hall hpublishes hcan⟩
    rw [harchive, hlower, hdebase, List.append_assoc, List.append_assoc, List.append_assoc]

/-- The small build calls the first tool, lowers two units, and makes an archive. -/
theorem buildTrace_small :
    smallBuilder.lowering.jobs ≤ 1 ∧
    (∃ debasing lowering archiving,
      smallBuilder.BuildTrace smallRequest ⟨smallTree, ([], ()), .empty⟩
        debasing lowering archiving) ∧
    (((smallBuilder.logging.build smallRequest).run ⟨smallTree, ([], ()), .empty⟩).2.tools.1.map
      fun call => call.1.program.text) = ["/debase", "/llc", "/llc", "/debase"] :=
  ⟨by decide, buildTrace (by decide) smallRequest _, by decide +kernel⟩

end Builder

end ModuleBuild
