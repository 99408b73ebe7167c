import ModuleBuild.Proofs.Build.ResponseFile
import ModuleBuild.Proofs.Cache.Repeat

/-!
# What a build leaves alone

Most of what happens to the files in a build is done by its tools, and what they do is not known. To
say that they leave something alone, a builder is watched that keeps the files as they were before
each of its tool calls and after it; it does what the builder does that is not watched. Between the
calls directories are created and two files are written, the fingerprint and the response file. So
what is at a path after some steps is what was there before them, if every call has kept it and the
two files are not at that path.

## Main definitions

* `FileTree.Keeps` — what is at a path is still there
* `Footprint`, `Builder.watched` — the files around a tool call, and a builder that keeps them
* `Leaves` — what the calls between two states have kept is kept

## Main results

* `Builder.UpToDate.of_keeps` — work stays up to date if its files are kept
* `Builder.leaves_debaseStep`, `Builder.leaves_lowerStep`, `Builder.leaves_publishStep` — the steps
  of a build
-/

namespace ModuleBuild

/-! ### Files that are kept -/

namespace FileTree

variable {t t' t'' : FileTree} {cwd : Location} {p q : Path} {content : Bytes}

/-- What is at a path is kept: what was read there is still read, and a file is still a file. -/
structure Keeps (t : FileTree) (cwd : Location) (t' : FileTree) (p : Path) : Prop where
  /-- What was read is still read. -/
  read : ∀ {content}, t.read cwd p = .ok content → t'.read cwd p = .ok content
  /-- A file is still a file. -/
  isFile : t.isFile cwd p = true → t'.isFile cwd p = true

theorem Keeps.refl (t : FileTree) (cwd : Location) (p : Path) : t.Keeps cwd t p := ⟨id, id⟩

theorem Keeps.trans (h : t.Keeps cwd t' p) (h' : t'.Keeps cwd t'' p) : t.Keeps cwd t'' p :=
  ⟨fun hread => h'.read (h.read hread), fun hfile => h'.isFile (h.isFile hfile)⟩

theorem Agrees.keeps (h : t.Agrees cwd t' cwd p) : t.Keeps cwd t' p :=
  ⟨h.read, fun hfile => h.isFile_eq.trans hfile⟩

theorem Keeps.of_entry (h : ∀ e, t.entry cwd p = .ok e → t'.entry cwd p = .ok e) :
    t.Keeps cwd t' p := by
  rcases hentry : t.entry cwd p with fault | e
  · constructor
    · intro content hread
      simp [FileTree.read, hentry, bind, Except.bind] at hread
    · intro hfile
      simp [FileTree.isFile, hentry] at hfile
  · have hentry' := h e hentry
    constructor
    · intro content hread
      rw [← hread, FileTree.read, FileTree.read, hentry, hentry']
    · intro hfile
      rw [← hfile, FileTree.isFile, FileTree.isFile, hentry, hentry']

/-- Directories come to be where nothing was. -/
theorem keeps_createDirectories (t : FileTree) (cwd : Location) (dir p : Path) :
    t.Keeps cwd (t.createDirectories cwd dir).2 p := by
  have hextends : (t.createDirectories cwd dir).2.Extends t :=
    fun _ _ he => entryAt?_createDirectories he
  exact .of_entry fun _ he => entry_of_extends hextends he

/-- A file that is written elsewhere changes nothing. -/
theorem keeps_of_write (h : t.write cwd q content = .ok t')
    (hapart : t'.isSame cwd p q = false) : t.Keeps cwd t' p := by
  rcases hd : t.isDevice cwd q with _ | _
  · refine .of_entry fun e he => ?_
    obtain ⟨m, hm⟩ : ∃ m, t.locate cwd p = .ok m := ⟨_, (entry_eq_ok.1 he).1⟩
    obtain ⟨l, hl⟩ := locate_of_write h
    obtain ⟨k, runnable, hk⟩ := entry_of_write h hd
    obtain ⟨hl', hthere⟩ := entry_eq_ok.1 hk
    obtain rfl : k = l := Except.ok.inj (hl'.symm.trans (locate_after_write h hl))
    have hne : m ≠ k :=
      ne_of_isSame_eq_false (locate_after_write h hm) hl' (by rw [hthere]; rfl) hapart
    rw [entry_of_write_of_ne h hl hm hne, he]
  · rw [eq_of_write_of_isDevice h hd]
    exact .refl t cwd p

end FileTree

/-- **Work stays up to date** if the files that it hangs on are kept. -/
theorem Builder.UpToDate.of_keeps {σ : Type} {b : Builder σ} {r : Request} {files files' : FileTree}
    (h : b.UpToDate r files)
    (hkeeps : ∀ p ∈ (sidecar r).path :: (b.fingerprintInputs r).paths,
      files.Keeps b.cwd files' p) : b.UpToDate r files' := by
  obtain ⟨hsidecar, hinputs⟩ := List.forall_mem_cons.1 hkeeps
  obtain ⟨htool, htarget, hmanifest⟩ := FingerprintInputs.forall_mem_paths.1 hinputs
  obtain ⟨s, hreads, text, htext, hspells⟩ := h.fresh
  have hreads' : (b.fingerprintInputs r).Reads files' b.cwd s :=
    ⟨htool.read hreads.tool, htarget.read hreads.target, hmanifest.read hreads.manifest,
      hreads.config⟩
  obtain ⟨content, hcontent, hdecode⟩ := FileTree.readText_eq_ok.1 htext
  have htext' := FileTree.readText_eq_ok.2 ⟨content, hsidecar.read hcontent, hdecode⟩
  exact ⟨FileTree.contains_of_read hreads'.target, hmanifest.isFile h.manifest,
    hsidecar.isFile h.kept, s, hreads', text, htext', hspells⟩

/-! ### A builder that is watched -/

/-- The files before a tool call and after it. -/
structure Footprint where
  /-- The files before the call. -/
  before : FileTree
  /-- The files after it. -/
  after : FileTree

/-- A tool call has kept what is at a path. -/
def Footprint.Keeps (call : Footprint) (cwd : Location) (p : Path) : Prop :=
  call.before.Keeps cwd call.after p

/-- What is read at a path after a call is what was read there before it. -/
def Footprint.agreesAt (call : Footprint) (cwd : Location) (p : Path) : Bool :=
  call.after.isFile cwd p == call.before.isFile cwd p &&
    (call.after.read cwd p).toOption == (call.before.read cwd p).toOption

theorem Footprint.keeps_of_agreesAt {call : Footprint} {cwd : Location} {p : Path}
    (h : call.agreesAt cwd p = true) : call.Keeps cwd p := by
  rw [agreesAt, Bool.and_eq_true, beq_iff_eq, beq_iff_eq] at h
  exact FileTree.Agrees.keeps ⟨h.1, h.2⟩

/-- The runner with the files around each of its calls. -/
def Runner.watched {σ : Type} (runner : Runner σ) : Runner (List Footprint × σ) where
  run i files tools :=
    let made := runner.run i files tools.2
    (made.1, made.2.1, (tools.1 ++ [⟨files, made.2.1⟩], made.2.2))

/-- Each call leaves its footprint. -/
theorem Runner.log_watched {σ : Type} {runner : Runner σ} {i : Invocation} {files files' : FileTree}
    {tools tools' : List Footprint × σ} {answer : Except FileFault ToolOutput}
    (h : runner.watched.run i files tools = (answer, files', tools')) :
    tools'.1 = tools.1 ++ [⟨files, files'⟩] := by
  obtain ⟨-, hrest⟩ := Prod.mk.inj h
  obtain ⟨rfl, rfl⟩ := Prod.mk.inj hrest
  rfl

/-- The same builder with the files around each of its tool calls. -/
def Builder.watched {σ : Type} (b : Builder σ) : Builder (List Footprint × σ) :=
  b.withRunner b.runner.watched

namespace Builder

variable {σ : Type} (b : Builder σ) (r : Request)

theorem shows_watched : b.runner.watched.Shows Prod.snd b.runner := fun _ _ _ => rfl

/-- Being watched changes nothing of what a build does. -/
theorem forgets_watched : (b.watched.build r).Forgets (b.build r) :=
  (shows_build b.shows_watched).forgets

theorem forgets_watched_debaseStep : (b.watched.debaseStep r).Forgets (b.debaseStep r) :=
  (shows_debaseStep b.shows_watched).forgets

end Builder

/-- A state before the first tool call. -/
def BuildState.watched {σ : Type} (st : BuildState σ) : BuildState (List Footprint × σ) :=
  ⟨st.files, ([], st.tools), st.sink⟩

/-- The footprints of a step. -/
def Step.footprints {α σ : Type} (s : Step (List Footprint × σ) α) (st : BuildState σ) :
    List Footprint := (s.run st.watched).2.tools.1

/-- What a step does it also does when it is watched. -/
theorem Step.Forgets.run_watched {α σ : Type} {s' : Step (List Footprint × σ) α} {s : Step σ α}
    (h : s'.Forgets s) {result : Except BuildError α} {st st' : BuildState σ}
    (hrun : s.run st = (result, st')) :
    ∃ ended, s'.run st.watched = (result, ended) ∧ ended.forget = st' ∧
      ended.tools.1 = s'.footprints st := by
  have hwatched := h st.watched
  rcases hended : s'.run st.watched with ⟨result', ended⟩
  rw [hended] at hwatched
  obtain ⟨rfl, rfl⟩ := Prod.mk.inj (hrun.symm.trans hwatched)
  exact ⟨ended, rfl, rfl, by rw [footprints, hended]⟩

variable {σ : Type} {cwd : Location} {p : Path} {calls calls' : List Footprint}
  {st st' st'' : BuildState (List Footprint × σ)}

/-- What is at a path is kept from one state to another one if the calls between them have
kept it. -/
structure Leaves (cwd : Location) (p : Path) (calls : List Footprint)
    (st st' : BuildState (List Footprint × σ)) : Prop where
  /-- These are all calls. -/
  log_eq : st'.tools.1 = st.tools.1 ++ calls
  /-- What they have kept is kept. -/
  keeps : (∀ call ∈ calls, call.Keeps cwd p) → st.files.Keeps cwd st'.files p

theorem Leaves.trans (h : Leaves cwd p calls st st') (h' : Leaves cwd p calls' st' st'') :
    Leaves cwd p (calls ++ calls') st st'' where
  log_eq := by rw [h'.log_eq, h.log_eq, List.append_assoc]
  keeps hcalls := by
    obtain ⟨hfirst, hrest⟩ := List.forall_mem_append.1 hcalls
    exact (h.keeps hfirst).trans (h'.keeps hrest)

/-- Without a call it hangs on the files alone. -/
theorem Leaves.of_keeps (hlog : st'.tools.1 = st.tools.1) (h : st.files.Keeps cwd st'.files p) :
    Leaves cwd p [] st st' :=
  ⟨by rw [hlog, List.append_nil], fun _ => h⟩

namespace Builder

variable {b : Builder σ} {r : Request}

/-! ### The second step -/

/-- Attempts at units are tool calls. -/
theorem exists_leaves_of_trail {batch : Batch (List Footprint × σ)} {outcomes : List UnitOutcome}
    (h : Batch.Trail batch st outcomes st')
    (hbatch : ∀ attempt ∈ batch, ∃ unit, attempt = b.watched.lowerOne r unit) :
    ∃ calls, ∀ cwd p, Leaves cwd p calls st st' := by
  induction h with
  | nil st => exact ⟨[], fun cwd p => .of_keeps rfl (.refl _ cwd p)⟩
  | @cons attempt rest st st₁ st₂ outcome outcomes first others ih =>
    obtain ⟨⟨unit, rfl⟩, hrest⟩ := List.forall_mem_cons.1 hbatch
    obtain ⟨calls, hcalls⟩ := ih hrest
    rw [run_lowerOne] at first
    obtain ⟨-, rfl⟩ := Prod.mk.inj first
    let call : Footprint :=
      ⟨st.files, (b.runner.run (b.lowerInvocation r unit) st.files st.tools.2).2.1⟩
    refine ⟨[call] ++ calls, fun cwd p => Leaves.trans ⟨rfl, fun hkeeps => ?_⟩ (hcalls cwd p)⟩
    exact hkeeps call (List.mem_singleton_self call)

/-- **The second step** creates a directory, and all else is done by the tool. -/
theorem leaves_lowerStep {path : Path} {report : LoweringReport}
    (h : (b.watched.lowerStep r path).run st = (.ok report, st')) :
    ∃ calls, ∀ p, Leaves b.cwd p calls st st' := by
  rw [run_lowerStep] at h
  split at h
  · simp at h
  rename_i manifest hload
  have hmake := Step.run_createDirectories b.cwd r.optDir st
  rcases hdir : (st.files.createDirectories b.cwd r.optDir).1 with fault | ⟨⟩
  · rw [hdir] at hmake
    have hstop := run_lowerBatch_of_error (b := b.watched) hmake
      ((manifest.units r.outputDir).map (b.watched.lowerOne r))
    rw [lowerUnits, hstop] at h
    simp [Except.bind] at h
  rw [hdir] at hmake
  obtain ⟨found, tried, st₁, hbatch, hrecorded⟩ := run_runBatch_recorded
    (answers_map_lowerOne b.watched r (manifest.units r.outputDir)) b.watched
    { st with files := (st.files.createDirectories b.cwd r.optDir).2 }
  rw [lowerUnits, run_lowerBatch (b := b.watched) hmake hbatch] at h
  obtain ⟨-, rfl⟩ := Prod.mk.inj h
  obtain ⟨calls, hcalls⟩ := exists_leaves_of_trail hrecorded.trail (b := b) (r := r) (by
    intro attempt hattempt
    obtain ⟨e, -, he⟩ := List.mem_filterMap.1 hattempt
    obtain ⟨unit, -, rfl⟩ := List.mem_map.1 (List.mem_of_getElem? he)
    exact ⟨unit, rfl⟩)
  refine ⟨calls, fun p => ⟨(hcalls b.cwd p).log_eq, fun hkeeps => ?_⟩⟩
  exact (st.files.keeps_createDirectories b.cwd r.optDir p).trans ((hcalls b.cwd p).keeps hkeeps)

/-! ### The other steps -/

/-- **The first step** writes the fingerprint, unless it is skipped, and all else is done by the
tool. -/
theorem leaves_debaseStep {outcome : DebaseOutcome}
    (h : (b.watched.debaseStep r).run st = (.ok outcome, st')) :
    ∃ calls, st'.tools.1 = st.tools.1 ++ calls ∧
      ∀ p, (outcome.cached = false → st'.files.isSame b.cwd p (sidecar r).path = false) →
        Leaves b.cwd p calls st st' := by
  obtain ⟨sink, hrun⟩ := run_debaseStep b.watched r st
  rw [hrun] at h
  obtain ⟨hresult, rfl⟩ := Prod.mk.inj h
  have hends := debased_run b.watched r st
  rw [hresult] at hends
  generalize ((b.watched.debase r).run st).2 = ended at hends
  cases hends with
  | cached found fresh =>
    exact ⟨[], (List.append_nil _).symm, fun p _ => .of_keeps rfl (.refl st.files b.cwd p)⟩
  | @refreshed output left hash files called succeeded written kept =>
    let call : Footprint := ⟨(st.files.createDirectories b.cwd r.libDir).2, left.files⟩
    have hlog : left.tools.1 = st.tools.1 ++ [call] := Runner.log_watched called.run_eq
    refine ⟨[call], hlog, fun p hapart => ⟨hlog, fun hcalls => ?_⟩⟩
    have hsave := Sidecar.save_eq_ok.1 (Sidecar.refresh_eq_ok.1 kept).2
    have hcall : call.Keeps b.cwd p := hcalls call (List.mem_singleton_self call)
    have hmake := st.files.keeps_createDirectories b.cwd r.libDir p
    exact (hmake.trans hcall).trans (FileTree.keeps_of_write hsave (hapart rfl))

/-- **The third step** writes the response file that is asked for, and calls no tool for it. -/
theorem leaves_publishStep {path : Path} {report : LoweringReport} {published : Published}
    (hmode : r.publish = .response path)
    (h : (b.watched.publishStep r report).run st = (.ok published, st'))
    (hapart : st'.files.isSame b.cwd p path = false) : Leaves b.cwd p [] st st' := by
  obtain ⟨hwrite, htools⟩ := written_of_publishStep hmode h
  exact .of_keeps (by rw [htools]) (FileTree.keeps_of_write hwrite hapart)

/-! ### Work that stays up to date -/

/-- The fingerprint is in a file of its own. -/
structure KeptApart (b : Builder σ) (r : Request) (files : FileTree) : Prop where
  /-- It is not in one of the files that it is taken of. -/
  apart : ∀ p ∈ (b.fingerprintInputs r).paths, files.isSame b.cwd p (sidecar r).path = false
  /-- It is in no device. -/
  file : files.isDevice b.cwd (sidecar r).path = false

/-- After the first step its work is up to date, unless the fingerprint is not in a file of its
own. -/
theorem upToDate_of_debaseStep {b : Builder σ} {st st' : BuildState σ} {outcome : DebaseOutcome}
    (h : (b.debaseStep r).run st = (.ok outcome, st'))
    (hapart : outcome.cached = false → b.KeptApart r st'.files) : b.UpToDate r st'.files := by
  obtain ⟨sink, hrun⟩ := run_debaseStep b r st
  rw [hrun] at h
  obtain ⟨hresult, rfl⟩ := Prod.mk.inj h
  rcases hdebase : (b.debase r).run st with ⟨result, ended⟩
  rw [hdebase] at hresult hapart
  obtain rfl : result = .ok outcome := hresult
  -- a note is all that the step has added
  replace hapart : outcome.cached = false → b.KeptApart r ended.files := hapart
  change b.UpToDate r ended.files
  rcases hcached : outcome.cached with _ | _
  · exact upToDate_of_refreshed hdebase hcached (hapart hcached).apart (hapart hcached).file
  · have hends := debased_run b r st
    rw [hdebase] at hends
    cases hends with
    | cached found fresh => exact upToDate_iff.2 ⟨found, fresh⟩
    | refreshed => simp [DebaseOutcome.cached] at hcached

end Builder

end ModuleBuild
