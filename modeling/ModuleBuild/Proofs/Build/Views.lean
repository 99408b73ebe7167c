import ModuleBuild.Build.Pipeline

/-!
# Builders that keep more than the tools need

A runner may keep more in its state than the tools need: notes on their calls, or what has been
printed. A map that drops what it keeps besides is a view of it. If the runner, seen through the
view, carries out each call as another runner does, then a build with the one, seen through the
view, is the build with the other. So whatever is kept besides does not disturb the build.

## Main definitions

* `BuildState.view` — a state whose tools are seen through a map
* `Runner.Shows`, `Step.Shows` — a runner or a step that, seen through a map, is another one

## Main results

* `Step.Shows.bind` — steps one after another
* `Builder.shows_debase`, `Builder.shows_lowerUnits`, `Builder.shows_build` — the steps of a build,
  and the whole build
-/

namespace ModuleBuild

variable {α β σ τ : Type}

/-- The same state with its tools seen through a map. -/
def BuildState.view (view : τ → σ) (st : BuildState τ) : BuildState σ where
  files := st.files
  tools := view st.tools
  sink := st.sink

/-- Seen through the map, the first runner carries out calls as the second one does. -/
def Runner.Shows (view : τ → σ) (runner' : Runner τ) (runner : Runner σ) : Prop :=
  ∀ i files tools, runner.run i files (view tools) =
    ((runner'.run i files tools).1, (runner'.run i files tools).2.1,
      view (runner'.run i files tools).2.2)

namespace Step

/-- Seen through the map, the first step does what the second one does. -/
def Shows (view : τ → σ) (s' : Step τ α) (s : Step σ α) : Prop :=
  ∀ st, s.run (st.view view) = ((s'.run st).1, (s'.run st).2.view view)

variable {view : τ → σ} {s' t' : Step τ α} {s t : Step σ α}

/-- Steps one after another. -/
theorem Shows.bind {f' : α → Step τ β} {f : α → Step σ β} (hs : s'.Shows view s)
    (hf : ∀ a, (f' a).Shows view (f a)) : (s' >>= f').Shows view (s >>= f) := by
  intro st
  rw [run_bind, run_bind, hs st]
  rcases s'.run st with ⟨e | a, st'⟩
  · rfl
  · exact hf a st'

/-- A choice between steps. -/
theorem Shows.ite {p : Prop} [Decidable p] (hs : s'.Shows view s) (ht : t'.Shows view t) :
    (if p then s' else t').Shows view (if p then s else t) := by
  split
  · exact hs
  · exact ht

/-- A step of which nothing is seen can stand before another one. -/
theorem Shows.after {s' : Step τ Unit} {t' : Step τ α} {t : Step σ α}
    (hs : s'.Shows view (pure ())) (ht : t'.Shows view t) :
    (do s'; t').Shows view t := by
  intro st
  have hquiet := hs st
  rw [run_pure, Prod.mk.injEq] at hquiet
  obtain ⟨hended, hstate⟩ := hquiet
  rw [run_bind]
  rcases hrun : s'.run st with ⟨e | a, st'⟩
  · simp [hrun] at hended
  · rw [hrun] at hstate
    rw [hstate]
    exact ht st'

theorem shows_pure (a : α) : (pure a : Step τ α).Shows view (pure a) := fun _ => rfl

theorem shows_fail (e : BuildError) : (fail e : Step τ α).Shows view (fail e) := fun _ => rfl

theorem shows_ofExcept (result : Except BuildError α) :
    (ofExcept result : Step τ α).Shows view (ofExcept result) := fun _ => rfl

theorem shows_files : (files : Step τ FileTree).Shows view files := fun _ => rfl

theorem shows_setFiles (t : FileTree) : (setFiles t : Step τ Unit).Shows view (setFiles t) :=
  fun _ => rfl

theorem shows_emit (d : Diagnostic) : (emit d : Step τ Unit).Shows view (emit d) := fun _ => rfl

theorem shows_emitAll (ds : List Diagnostic) :
    (emitAll ds : Step τ Unit).Shows view (emitAll ds) := by
  intro st
  rw [run_emitAll, run_emitAll]
  rfl

theorem shows_createDirectories (cwd : Location) (p : Path) :
    (createDirectories cwd p : Step τ Unit).Shows view (createDirectories cwd p) := by
  intro st
  rw [run_createDirectories, run_createDirectories]
  rfl

theorem shows_writeFile (cwd : Location) (p : Path) (content : Bytes) :
    (writeFile cwd p content : Step τ Unit).Shows view (writeFile cwd p content) := by
  intro st
  rw [run_writeFile, run_writeFile]
  cases h : st.files.write cwd p content <;> simp [BuildState.view, h]

variable {runner' : Runner τ} {runner : Runner σ}

theorem shows_call (h : runner'.Shows view runner) (i : Invocation) :
    (call runner' i).Shows view (call runner i) := by
  intro st
  have htools : (st.view view).tools = view st.tools := rfl
  rw [run_call, run_call, htools, h i (st.view view).files st.tools]
  rfl

theorem shows_callChecked (h : runner'.Shows view runner) (i : Invocation) :
    (callChecked runner' i).Shows view (callChecked runner i) := by
  refine (shows_call h i).bind fun answer => ?_
  rcases answer with fault | output
  · exact shows_fail _
  · exact shows_ofExcept _

end Step

open Step

namespace Builder

variable {view : τ → σ} {runner' : Runner τ} {b : Builder σ} {r : Request}

theorem shows_refreshFingerprint :
    ((b.withRunner runner').refreshFingerprint r).Shows view (b.refreshFingerprint r) := by
  refine shows_files.bind fun files => ?_
  have hinputs : (b.withRunner runner').fingerprintInputs r = b.fingerprintInputs r := rfl
  have hcwd : (b.withRunner runner').cwd = b.cwd := rfl
  rw [hinputs, hcwd]
  rcases (sidecar r).refresh files b.cwd (b.fingerprintInputs r) with e | ⟨hash, files'⟩
  · exact (shows_setFiles _).bind fun _ => shows_fail _
  · exact shows_setFiles _

/-- The first step. -/
theorem shows_debase (h : runner'.Shows view b.runner) :
    ((b.withRunner runner').debase r).Shows view (b.debase r) := by
  refine shows_files.bind fun files => ?_
  refine .ite (shows_fail _) (.ite (shows_pure _) ?_)
  refine (shows_createDirectories _ _).bind fun _ => ?_
  refine (shows_callChecked h _).bind fun _ => ?_
  refine shows_files.bind fun files => ?_
  exact .ite (shows_refreshFingerprint.bind fun _ => shows_pure _) (shows_fail _)

theorem shows_lowerOne (h : runner'.Shows view b.runner) (unit : Path) :
    ((b.withRunner runner').lowerOne r unit).Shows view (b.lowerOne r unit) :=
  (shows_call h _).bind fun _ => shows_pure _

/-- Attempts in turn. -/
theorem shows_runInTurn (h : runner'.Shows view b.runner) (ceiling failed : Nat)
    (units : List Path) :
    (Batch.runInTurn ceiling failed (units.map ((b.withRunner runner').lowerOne r))).Shows view
      (Batch.runInTurn ceiling failed (units.map (b.lowerOne r))) := by
  induction units generalizing failed with
  | nil => exact shows_pure _
  | cons unit rest ih =>
    refine (shows_lowerOne h unit).bind fun outcome => ?_
    exact .ite (shows_pure _) ((ih _).bind fun _ => shows_pure _)

/-- The steps of workers. -/
theorem shows_follow (h : runner'.Shows view b.runner) (ceiling : Nat) (units : List Path)
    (schedule : List Nat) (w : Workers) :
    (Workers.follow ceiling (units.map ((b.withRunner runner').lowerOne r)).toArray
      schedule w).Shows view
      (Workers.follow ceiling (units.map (b.lowerOne r)).toArray schedule w) := by
  induction schedule generalizing w with
  | nil => exact shows_pure _
  | cons n rest ih =>
    refine .bind ?_ ih
    unfold Workers.step
    simp only [List.getElem?_toArray, List.getElem?_map]
    rcases w.units[n]? with _ | worker
    · exact shows_pure _
    cases worker with
    | waiting => exact shows_pure _
    | counting next seen => exact shows_pure _
    | ready =>
      rcases units[n]? with _ | unit
      · exact shows_pure _
      · exact (shows_lowerOne h unit).bind fun _ => shows_pure _
    | returned outcome => exact shows_pure _
    | flagged outcome => exact shows_pure _
    | finished outcome => exact shows_pure _

/-- A list of units, shared or in turn. -/
theorem shows_lowerUnits (h : runner'.Shows view b.runner) (units : List Path) :
    ((b.withRunner runner').lowerUnits r units).Shows view (b.lowerUnits r units) := by
  refine (shows_createDirectories _ _).bind fun _ => ?_
  refine .bind ?_ fun outcomes => ?_
  · unfold runBatch
    rw [List.length_map, List.length_map]
    refine .ite (.bind ?_ fun _ => shows_pure _) (shows_runInTurn h _ _ _)
    rw [List.length_map, List.length_map]
    exact shows_follow h _ _ _ _
  · rw [List.length_map, List.length_map]
    exact (shows_emitAll _).bind fun _ => shows_pure _

theorem shows_debaseStep (h : runner'.Shows view b.runner) :
    ((b.withRunner runner').debaseStep r).Shows view (b.debaseStep r) := by
  refine (shows_debase h).bind fun outcome => ?_
  exact .ite ((shows_emit _).bind fun _ => shows_pure _) (shows_pure _)

theorem shows_lowerStep (h : runner'.Shows view b.runner) (path : Path) :
    ((b.withRunner runner').lowerStep r path).Shows view (b.lowerStep r path) := by
  refine shows_files.bind fun files => (shows_ofExcept _).bind fun manifest => ?_
  exact (shows_lowerUnits h _).bind fun report => .ite (shows_pure _) (shows_fail _)

theorem shows_publishStep (h : runner'.Shows view b.runner) (report : LoweringReport) :
    ((b.withRunner runner').publishStep r report).Shows view (b.publishStep r report) := by
  refine .bind ?_ fun published => ?_
  · unfold publishObjects
    rcases r.publish with path | name
    · exact (shows_writeFile _ _ _).bind fun _ => shows_pure _
    · exact (shows_callChecked h _).bind fun _ => shows_pure _
  · rcases published with path | ⟨name, stderr⟩
    · exact shows_pure _
    · exact .ite ((shows_emit _).bind fun _ => shows_pure _) (shows_pure _)

/-- **The whole build.** What a runner keeps besides does not disturb it. -/
theorem shows_build (h : runner'.Shows view b.runner) :
    ((b.withRunner runner').build r).Shows view (b.build r) :=
  (shows_debaseStep h).bind fun debase => (shows_lowerStep h debase.manifestPath).bind fun lower =>
    (shows_publishStep h lower).bind fun _ => shows_pure _

end Builder

end ModuleBuild
