import ModuleBuild.Proofs.Build.Calls
import ModuleBuild.Proofs.Cache.Snapshot

/-!
# The contract of the first step

The first step is where a build decides whether the slow tool is called, so its caller needs to
know three things of every end that it can come to: how often the tool was called and on which
files, what has changed besides what the tool has changed, and what the file of the fingerprint
holds afterwards.

The runner is a parameter, so the tool may fail to start, may end in any way, and may change any
file, the file of the fingerprint among them.

## The file of the fingerprint

After a call that ends well the fingerprint of what the tool has left is written. It is in its file
then, unless the path of that file leads to a device: a device takes what is written and keeps
nothing. Where there is no room for the fingerprint the step fails, and by then its file has been
emptied. `Builder.not_always_kept` shows both: a build whose path is a link to `/dev/null`, and one
that leaves an empty file where the tool has left another one.

## Main definitions

* `FileTree.OnlyAddsDirectories`, `FileTree.Gains` — what may have changed
* `Sidecar.Spells` — the file of a fingerprint holds the digits of a hash
* `Builder.UpToDate` — the work of the first tool is up to date, in terms of the files
* `Builder.DebaseContract` — the contract

## Main results

* `Builder.debase_contract` — the first step keeps the contract
* `Builder.not_always_kept` — after a call that ends well there may be no fingerprint in its file,
  and after a step that fails its file may have changed
-/

namespace ModuleBuild

/-! ### What may have changed -/

namespace FileTree

variable {t t' : FileTree} {cwd : Location} {p : Path} {content : Bytes}

/-- Nothing has changed but that there are directories where nothing was. -/
def OnlyAddsDirectories (t t' : FileTree) : Prop :=
  ∀ l, t'.entryAt? l = t.entryAt? l ∨ t.entryAt? l = none ∧ t'.entryAt? l = some .directory

/-- A file with the content is where the path leads to, and nothing else has changed. -/
def Gains (t t' : FileTree) (cwd : Location) (p : Path) (content : Bytes) : Prop :=
  ∃ l runnable, t.locate cwd p = .ok l ∧ t'.locate cwd p = .ok l ∧
    t'.entryAt? l = some (.file content runnable) ∧ ∀ m, m ≠ l → t'.entryAt? m = t.entryAt? m

theorem OnlyAddsDirectories.refl (t : FileTree) : t.OnlyAddsDirectories t := fun _ => .inl rfl

theorem onlyAddsDirectories_createDirectories (t : FileTree) (cwd : Location) (p : Path) :
    t.OnlyAddsDirectories (t.createDirectories cwd p).2 :=
  entryAt?_createDirectories_cases t cwd p

/-- Writing a file changes nothing else. -/
theorem gains_of_write (h : t.write cwd p content = .ok t') (hd : t.isDevice cwd p = false) :
    t.Gains t' cwd p content := by
  obtain ⟨l, runnable, hl, hfill, rfl⟩ := eq_put_of_write h hd
  refine ⟨l, runnable, hl, locate_put_file hfill hl, entryAt?_put_file_self hfill, ?_⟩
  intro m hm
  exact entryAt?_put_file_of_ne hfill hm

end FileTree

namespace Sidecar

variable {s : Sidecar} {files : FileTree} {cwd : Location} {hash : ContentHash}

/-- The text in the file, without the blanks around it, is 32 digits, and these are the bytes of the
hash. -/
def Spells (s : Sidecar) (files : FileTree) (cwd : Location) (hash : ContentHash) : Prop :=
  ∃ text, files.readText cwd s.path = .ok text ∧ (Text.trim text).toList.length = 32 ∧
    Hex.decode? (Text.trim text).toList = some hash.bytes

/-- What is read from the file is the hash that it spells. -/
theorem load_eq_ok_iff : s.load files cwd = .ok hash ↔ s.Spells files cwd hash := by
  constructor
  · intro h
    unfold load at h
    split at h
    · simp at h
    rename_i text htext
    split at h
    · rename_i hash' hspells
      obtain rfl := Except.ok.inj h
      have hbytes := ContentHash.ofHex?_eq_some_iff.1 hspells
      refine ⟨text, htext, ?_, hbytes⟩
      rw [Hex.length_of_decode? hbytes, hash'.length_bytes]
    · simp at h
  · rintro ⟨text, htext, -, hdecode⟩
    rw [load_of_read htext, ContentHash.ofHex?_eq_some_iff.2 hdecode]

end Sidecar

namespace Builder

variable {σ : Type} {b : Builder σ} {r : Request}

/-! ### When the tool is skipped -/

/-- The work of the first tool is up to date. -/
structure UpToDate (b : Builder σ) (r : Request) (files : FileTree) : Prop where
  /-- The target is there. -/
  target : files.contains b.cwd r.targetPath = true
  /-- The manifest is a file. -/
  manifest : files.isFile b.cwd r.manifestPath = true
  /-- There is a file for the fingerprint. -/
  kept : files.isFile b.cwd (sidecar r).path = true
  /-- The three inputs can be read, and their fingerprint is the one that the file spells. -/
  fresh : ∃ s, (b.fingerprintInputs r).Reads files b.cwd s ∧
    (sidecar r).Spells files b.cwd s.hash

theorem upToDate_iff {files : FileTree} : b.UpToDate r files ↔
    files.contains b.cwd r.targetPath = true ∧ b.isUpToDate r files = true := by
  have hfresh : (sidecar r).isFresh files b.cwd (b.fingerprintInputs r) = true ↔
      ∃ s, (b.fingerprintInputs r).Reads files b.cwd s ∧
        (sidecar r).Spells files b.cwd s.hash := by
    rw [Sidecar.isFresh_iff]
    constructor
    · rintro ⟨hash, hload, hcompute⟩
      obtain ⟨s, hs, rfl⟩ := FingerprintInputs.compute_eq_ok.1 hcompute
      exact ⟨s, hs, Sidecar.load_eq_ok_iff.1 hload⟩
    · rintro ⟨s, hs, hspells⟩
      exact ⟨s.hash, Sidecar.load_eq_ok_iff.2 hspells,
        FingerprintInputs.compute_eq_ok.2 ⟨s, hs, rfl⟩⟩
  rw [isUpToDate, Bool.and_eq_true, Bool.and_eq_true, hfresh]
  constructor
  · intro h
    exact ⟨h.target, ⟨h.manifest, h.kept⟩, h.fresh⟩
  · rintro ⟨htarget, ⟨hmanifest, hkept⟩, hfresh⟩
    exact ⟨htarget, hmanifest, hkept, hfresh⟩

/-! ### The contract -/

/-- The files that the first tool is called on. -/
def debaseFiles (b : Builder σ) (r : Request) (files : FileTree) : FileTree :=
  (files.createDirectories b.cwd r.libDir).2

/-- What the first tool answers, and the files and tools that it leaves. -/
def debaseCall (b : Builder σ) (r : Request) (st : BuildState σ) :
    Except FileFault ToolOutput × FileTree × σ :=
  b.runner.run (b.debaseInvocation r) (b.debaseFiles r st.files) st.tools

/-- The files that the first tool leaves. -/
def filesLeft (b : Builder σ) (r : Request) (st : BuildState σ) : FileTree :=
  (b.debaseCall r st).2.1

/-- The step fails since there is no room for the fingerprint. Its file is empty afterwards, and
nothing else has changed. -/
def Emptied (b : Builder σ) (r : Request) (e : BuildError) (left files : FileTree) : Prop :=
  e = .cache (.file (sidecar r).path .noSpace) ∧ left.Gains files b.cwd (sidecar r).path []

/-- With a target, work to do and a directory for the units the tool is called. -/
theorem called_debaseCall {st : BuildState σ}
    (found : st.files.contains b.cwd r.targetPath = true)
    (stale : b.isUpToDate r st.files = false)
    (created : (st.files.createDirectories b.cwd r.libDir).1 = .ok ()) :
    b.Called r st (b.debaseCall r st).1
      { st with files := b.filesLeft r st, tools := (b.debaseCall r st).2.2 } :=
  ⟨found, stale, created, rfl, rfl⟩

/-- The contract of the first step, for a builder that keeps a log. The step starts in the state
`st`, makes the calls, and ends with a result in the state `st'`. -/
structure DebaseContract (b : Builder σ) (r : Request) (st : BuildState (List Call × σ))
    (calls : List Call) (result : Except BuildError DebaseOutcome)
    (st' : BuildState (List Call × σ)) : Prop where
  /-- The builder that keeps no log does the same. -/
  run_forget : (b.debase r).run st.forget = (result, st'.forget)
  /-- The calls are all there are. -/
  log_eq : st'.tools.1 = st.tools.1 ++ calls
  /-- Nothing is emitted. -/
  sink_eq : st'.sink = st.sink
  /-- Without a target the step fails at once. -/
  missing : st.files.contains b.cwd r.targetPath = false →
    result = .error (.targetMissing r.targetPath) ∧ calls = [] ∧ st' = st
  /-- The tool is skipped exactly if its work is up to date. -/
  cached_iff : (∃ outcome, result = .ok outcome ∧ outcome.cached = true) ↔
    b.UpToDate r st.files
  /-- If it is skipped there is no call, and nothing changes. -/
  cached : b.UpToDate r st.files →
    result = .ok ⟨r.manifestPath, none⟩ ∧ calls = [] ∧ st' = st
  /-- Otherwise there is a call if there is a target and a directory can be made for the units. -/
  called_iff : calls ≠ [] ↔ st.files.contains b.cwd r.targetPath = true ∧
    ¬ b.UpToDate r st.files ∧ (st.files.createDirectories b.cwd r.libDir).1 = .ok ()
  /-- The call is that of the request. It is made once, when there is a directory for the units, and
  nothing but directories has come to be before. -/
  called : calls ≠ [] → calls = [(b.debaseInvocation r, (b.debaseCall r st.forget).1)] ∧
    (b.debaseFiles r st.files).isDirectory b.cwd r.libDir = true ∧
    st.files.OnlyAddsDirectories (b.debaseFiles r st.files)
  /-- The step ends well after a call exactly if the call ends with code zero, leaves a manifest,
  and the fingerprint can be taken and written. -/
  refreshed_iff : (∃ outcome, result = .ok outcome ∧ outcome.cached = false) ↔
    (∃ call ∈ calls, call.Succeeded) ∧
      (b.filesLeft r st.forget).isFile b.cwd r.manifestPath = true ∧
      ∃ hash files, (sidecar r).refresh (b.filesLeft r st.forget) b.cwd (b.fingerprintInputs r) =
        .ok (hash, files)
  /-- Then the fingerprint of what the tool has left is in its file, and nothing else has changed
  since; unless that file is a device, and then nothing at all has changed since. -/
  refreshed : ∀ outcome, result = .ok outcome → outcome.cached = false →
    outcome = ⟨r.manifestPath, some (b.debaseInvocation r)⟩ ∧
    ∃ s, (b.fingerprintInputs r).Reads (b.filesLeft r st.forget) b.cwd s ∧
      ((b.filesLeft r st.forget).isDevice b.cwd (sidecar r).path = false →
        (b.filesLeft r st.forget).Gains st'.files b.cwd (sidecar r).path
          (Sidecar.content s.hash) ∧
        (sidecar r).Spells st'.files b.cwd s.hash) ∧
      ((b.filesLeft r st.forget).isDevice b.cwd (sidecar r).path = true →
        st'.files = b.filesLeft r st.forget)
  /-- If the step fails then the files are those that the tool has left, but for the file of the
  fingerprint, which is empty if there was no room for it; or there was no call and nothing but
  directories has come to be. -/
  failed : ∀ e, result = .error e →
    (calls ≠ [] ∧ (st'.files = b.filesLeft r st.forget ∨
      b.Emptied r e (b.filesLeft r st.forget) st'.files)) ∨
    (calls = [] ∧ st.files.OnlyAddsDirectories st'.files)
  /-- The step comes to one of its ends. -/
  ends : b.logging.Debased r st result st'

variable {st st' : BuildState (List Call × σ)} {answer : Except FileFault ToolOutput}
  {e : BuildError}

/-- What a call is and leaves. -/
theorem Called.eq_debaseCall (h : b.logging.Called r st answer st') :
    (b.debaseCall r st.forget).1 = answer ∧ b.filesLeft r st.forget = st'.files := by
  have hrun := h.run_eq
  rw [logging, withRunner, Runner.run_noting, Prod.mk.injEq, Prod.mk.injEq] at hrun
  exact ⟨hrun.1, hrun.2.1⟩

theorem Called.not_upToDate (h : b.logging.Called r st answer st') :
    ¬ b.UpToDate r st.files := by
  intro hfresh
  have hstale : b.isUpToDate r st.files = false := h.stale
  rw [(upToDate_iff.1 hfresh).2] at hstale
  exact Bool.noConfusion hstale

/-- A call is made where a directory for the units is. -/
theorem Called.isDirectory_libDir (h : b.logging.Called r st answer st') :
    (b.debaseFiles r st.files).isDirectory b.cwd r.libDir = true :=
  FileTree.isDirectory_createDirectories (r.outputDir.text_join_ne (by decide)) h.created

/-- A step that fails or is skipped without a call. -/
theorem contract_of_error_uncalled
    (hforget : (b.debase r).run st.forget = (.error e, st'.forget))
    (hends : b.logging.Debased r st (.error e) st')
    (htools : st'.tools = st.tools) (hsink : st'.sink = st.sink)
    (hadds : st.files.OnlyAddsDirectories st'.files)
    (hmissing : st.files.contains b.cwd r.targetPath = false →
      e = .targetMissing r.targetPath ∧ st' = st)
    (hstale : ¬ b.UpToDate r st.files)
    (hcreated : st.files.contains b.cwd r.targetPath = true →
      (st.files.createDirectories b.cwd r.libDir).1 ≠ .ok ()) :
    b.DebaseContract r st [] (.error e) st' := by
  constructor
  case run_forget => exact hforget
  case log_eq => rw [htools, List.append_nil]
  case sink_eq => exact hsink
  case missing =>
    intro h
    obtain ⟨rfl, rfl⟩ := hmissing h
    exact ⟨rfl, rfl, rfl⟩
  case cached_iff => exact iff_of_false (by simp) hstale
  case cached => exact fun h => absurd h hstale
  case called_iff => exact iff_of_false (by simp) fun ⟨hfound, _, hmade⟩ => hcreated hfound hmade
  case called => exact fun h => absurd rfl h
  case refreshed_iff => exact iff_of_false (by simp) (by simp)
  case refreshed => simp
  case failed => exact fun _ _ => .inr ⟨rfl, hadds⟩
  case ends => exact hends

/-- A step that is skipped. -/
theorem contract_of_cached
    (hforget : (b.debase r).run st.forget = (.ok ⟨r.manifestPath, none⟩, st.forget))
    (hends : b.logging.Debased r st (.ok ⟨r.manifestPath, none⟩) st)
    (hfresh : b.UpToDate r st.files) :
    b.DebaseContract r st [] (.ok ⟨r.manifestPath, none⟩) st := by
  constructor
  case run_forget => exact hforget
  case log_eq => rw [List.append_nil]
  case sink_eq => rfl
  case missing => exact fun h => absurd (h.symm.trans hfresh.target) Bool.false_ne_true
  case cached_iff => exact iff_of_true ⟨_, rfl, rfl⟩ hfresh
  case cached => exact fun _ => ⟨rfl, rfl, rfl⟩
  case called_iff => exact iff_of_false (by simp) fun ⟨_, hstale, _⟩ => hstale hfresh
  case called => exact fun h => absurd rfl h
  case refreshed_iff => exact iff_of_false (by simp [DebaseOutcome.cached]) (by simp)
  case refreshed => simp [DebaseOutcome.cached]
  case failed => simp
  case ends => exact hends

/-- A step with a call. The tool has left the state `left`, and what follows is told of it. -/
theorem contract_of_called {result : Except BuildError DebaseOutcome}
    {left : BuildState (List Call × σ)} (called : b.logging.Called r st answer left)
    (hforget : (b.debase r).run st.forget = (result, st'.forget))
    (hends : b.logging.Debased r st result st')
    (htools : st'.tools = left.tools) (hsink : st'.sink = left.sink)
    (hcached : ∀ outcome, result = .ok outcome → outcome.cached = false)
    (hiff : (∃ outcome, result = .ok outcome) ↔
      Call.Succeeded (b.debaseInvocation r, answer) ∧
        left.files.isFile b.cwd r.manifestPath = true ∧
        ∃ hash files, (sidecar r).refresh left.files b.cwd (b.fingerprintInputs r) =
          .ok (hash, files))
    (hrefreshed : ∀ outcome, result = .ok outcome →
      outcome = ⟨r.manifestPath, some (b.debaseInvocation r)⟩ ∧
      ∃ s, (b.fingerprintInputs r).Reads left.files b.cwd s ∧
        (left.files.isDevice b.cwd (sidecar r).path = false →
          left.files.Gains st'.files b.cwd (sidecar r).path (Sidecar.content s.hash) ∧
          (sidecar r).Spells st'.files b.cwd s.hash) ∧
        (left.files.isDevice b.cwd (sidecar r).path = true → st'.files = left.files))
    (hfailed : ∀ e, result = .error e →
      st'.files = left.files ∨ b.Emptied r e left.files st'.files) :
    b.DebaseContract r st [(b.debaseInvocation r, answer)] result st' := by
  obtain ⟨hanswer, hleft⟩ := called.eq_debaseCall
  constructor
  case run_forget => exact hforget
  case log_eq => rw [htools, called.log]
  case sink_eq => rw [hsink, called.sink_eq]
  case missing => exact fun h => absurd (h.symm.trans called.found) Bool.false_ne_true
  case cached_iff =>
    refine iff_of_false ?_ called.not_upToDate
    rintro ⟨outcome, hok, hskipped⟩
    exact Bool.false_ne_true ((hcached outcome hok).symm.trans hskipped)
  case cached => exact fun h => absurd h called.not_upToDate
  case called_iff =>
    exact iff_of_true (by simp) ⟨called.found, called.not_upToDate, called.created⟩
  case called =>
    intro _
    refine ⟨by rw [hanswer], called.isDirectory_libDir, ?_⟩
    exact FileTree.onlyAddsDirectories_createDirectories _ _ _
  case refreshed_iff =>
    rw [hleft]
    constructor
    · rintro ⟨outcome, hok, -⟩
      obtain ⟨hsucceeded, hmanifest, hrefresh⟩ := hiff.1 ⟨outcome, hok⟩
      exact ⟨⟨_, List.mem_singleton.2 rfl, hsucceeded⟩, hmanifest, hrefresh⟩
    · rintro ⟨⟨call, hcall, hsucceeded⟩, hmanifest, hrefresh⟩
      obtain rfl := List.mem_singleton.1 hcall
      obtain ⟨outcome, hok⟩ := hiff.2 ⟨hsucceeded, hmanifest, hrefresh⟩
      exact ⟨outcome, hok, hcached outcome hok⟩
  case refreshed =>
    rw [hleft]
    exact fun outcome hok _ => hrefreshed outcome hok
  case failed =>
    rw [hleft]
    exact fun e he => .inl ⟨by simp, hfailed e he⟩
  case ends => exact hends

/-- A step that fails after a call. -/
theorem contract_of_error_called {left : BuildState (List Call × σ)}
    (called : b.logging.Called r st answer left)
    (hforget : (b.debase r).run st.forget = (.error e, st'.forget))
    (hends : b.logging.Debased r st (.error e) st')
    (htools : st'.tools = left.tools) (hsink : st'.sink = left.sink)
    (hfiles : st'.files = left.files ∨ b.Emptied r e left.files st'.files)
    (hnot : ¬ (Call.Succeeded (b.debaseInvocation r, answer) ∧
      left.files.isFile b.cwd r.manifestPath = true ∧
      ∃ hash files, (sidecar r).refresh left.files b.cwd (b.fingerprintInputs r) =
        .ok (hash, files))) :
    b.DebaseContract r st [(b.debaseInvocation r, answer)] (.error e) st' := by
  refine contract_of_called called hforget hends htools hsink ?_ (iff_of_false ?_ hnot) ?_ ?_
  · simp
  · simp
  · simp
  · intro e' he
    obtain rfl := Except.error.inj he
    exact hfiles

/-- What an attempt to take the fingerprint leaves that has failed. -/
theorem emptied_of_refresh {e : CacheError} {files : FileTree}
    (h : (sidecar r).refresh files b.cwd (b.fingerprintInputs r) = .error e) :
    (sidecar r).afterRefresh files b.cwd (b.fingerprintInputs r) = files ∨
      b.Emptied r (.cache e) files
        ((sidecar r).afterRefresh files b.cwd (b.fingerprintInputs r)) := by
  rcases Sidecar.afterRefresh_of_error h with hsame | ⟨rfl, hfile, hemptied⟩
  · exact .inl hsame
  · exact .inr ⟨rfl, FileTree.gains_of_write hemptied hfile⟩

/-- What it says of the files that a fingerprint could be taken and written. -/
theorem refreshed_of_refresh {left files : FileTree} {cwd : Location} {s : Sidecar}
    {i : FingerprintInputs} {hash : ContentHash}
    (h : s.refresh left cwd i = .ok (hash, files)) :
    ∃ now, i.Reads left cwd now ∧
      (left.isDevice cwd s.path = false →
        left.Gains files cwd s.path (Sidecar.content now.hash) ∧
        s.Spells files cwd now.hash) ∧
      (left.isDevice cwd s.path = true → files = left) := by
  obtain ⟨hcompute, hsave⟩ := Sidecar.refresh_eq_ok.1 h
  obtain ⟨now, hnow, rfl⟩ := FingerprintInputs.compute_eq_ok.1 hcompute
  rw [Sidecar.save_eq_ok] at hsave
  refine ⟨now, hnow, fun hfile => ?_, fun hdevice => ?_⟩
  · have hgains := FileTree.gains_of_write hsave hfile
    obtain ⟨l, runnable, -, hl, hentry, -⟩ := hgains
    exact ⟨FileTree.gains_of_write hsave hfile,
      Sidecar.load_eq_ok_iff.1 (Sidecar.load_of_saved hl hentry)⟩
  · exact FileTree.eq_of_write_of_isDevice hsave hdevice

/-- A step that ends well after a call. -/
theorem contract_of_refreshed {output : ToolOutput} {hash : ContentHash} {files : FileTree}
    (called : b.logging.Called r st (.ok output) st') (succeeded : output.succeeded = true)
    (written : st'.files.isFile b.cwd r.manifestPath = true)
    (kept : (sidecar r).refresh st'.files b.cwd (b.fingerprintInputs r) = .ok (hash, files))
    (hforget : (b.debase r).run st.forget =
      (.ok ⟨r.manifestPath, some (b.debaseInvocation r)⟩, BuildState.forget { st' with files }))
    (hends : b.logging.Debased r st (.ok ⟨r.manifestPath, some (b.debaseInvocation r)⟩)
      { st' with files }) :
    b.DebaseContract r st [(b.debaseInvocation r, .ok output)]
      (.ok ⟨r.manifestPath, some (b.debaseInvocation r)⟩) { st' with files } := by
  have hsucceeded : Call.Succeeded (b.debaseInvocation r, .ok output) :=
    ⟨output, rfl, by simpa [ToolOutput.succeeded] using succeeded⟩
  refine contract_of_called called hforget hends rfl rfl ?_
    (iff_of_true ⟨_, rfl⟩ ⟨hsucceeded, written, hash, files, kept⟩) ?_ ?_
  · intro outcome houtcome
    obtain rfl := Except.ok.inj houtcome
    rfl
  · intro outcome houtcome
    obtain rfl := Except.ok.inj houtcome
    exact ⟨rfl, refreshed_of_refresh kept⟩
  · simp

/-- **The contract of the first step.** -/
theorem debase_contract (b : Builder σ) (r : Request) (st : BuildState (List Call × σ)) :
    ∃ calls, b.DebaseContract r st calls ((b.logging.debase r).run st).1
      ((b.logging.debase r).run st).2 := by
  have hends := debased_run b.logging r st
  have hforget : (b.debase r).run st.forget = (((b.logging.debase r).run st).1,
      ((b.logging.debase r).run st).2.forget) := forgets_debase st
  generalize ((b.logging.debase r).run st).1 = result at hends hforget
  generalize ((b.logging.debase r).run st).2 = st' at hends hforget
  cases hends with
  | targetMissing missing =>
    replace missing : st.files.contains b.cwd r.targetPath = false := missing
    refine ⟨[], contract_of_error_uncalled hforget (.targetMissing missing) rfl rfl (.refl _)
      (fun _ => ⟨rfl, rfl⟩) ?_ ?_⟩
    · intro hfresh
      exact Bool.false_ne_true (missing.symm.trans hfresh.target)
    · intro hfound
      exact absurd (missing.symm.trans hfound) Bool.false_ne_true
  | cached found fresh =>
    exact ⟨[], contract_of_cached hforget (.cached found fresh) (upToDate_iff.2 ⟨found, fresh⟩)⟩
  | notCreated found stale failed =>
    replace found : st.files.contains b.cwd r.targetPath = true := found
    replace stale : b.isUpToDate r st.files = false := stale
    replace failed : (st.files.createDirectories b.cwd r.libDir).1 = .error _ := failed
    refine ⟨[], contract_of_error_uncalled hforget (.notCreated found stale failed) rfl rfl
      (FileTree.onlyAddsDirectories_createDirectories _ _ _) ?_ ?_ ?_⟩
    · intro hmissing
      exact absurd (hmissing.symm.trans found) Bool.false_ne_true
    · intro hfresh
      exact Bool.false_ne_true (stale.symm.trans (upToDate_iff.1 hfresh).2)
    · simp [failed]
  | notSpawned called =>
    refine ⟨_, contract_of_error_called called hforget (.notSpawned called) rfl rfl (.inl rfl) ?_⟩
    rintro ⟨⟨output, houtput, -⟩, -⟩
    simp at houtput
  | @toolFailed output st' called failed =>
    refine ⟨_, contract_of_error_called called hforget (.toolFailed called failed) rfl rfl
      (.inl rfl) ?_⟩
    rintro ⟨⟨output', houtput, hcode⟩, -⟩
    obtain rfl := Except.ok.inj houtput
    simp [ToolOutput.succeeded, hcode] at failed
  | manifestNotWritten called succeeded missing =>
    refine ⟨_, contract_of_error_called called hforget
      (.manifestNotWritten called succeeded missing) rfl rfl (.inl rfl) ?_⟩
    rintro ⟨-, hmanifest, -⟩
    exact Bool.false_ne_true (missing.symm.trans hmanifest)
  | notRefreshed called succeeded written failed =>
    refine ⟨_, contract_of_error_called called hforget
      (.notRefreshed called succeeded written failed) rfl rfl (emptied_of_refresh failed) ?_⟩
    rintro ⟨-, -, hash, files, hrefresh⟩
    exact absurd (failed.symm.trans hrefresh) (by simp)
  | refreshed called succeeded written kept =>
    exact ⟨_, contract_of_refreshed called succeeded written kept hforget
      (.refreshed called succeeded written kept)⟩

/-- The first tool and the target, and a link to a device where the fingerprint is to be kept. -/
def nullTree : FileTree :=
  { entries := [("debase", .file [1] true), ("dev", .directory [("null", .device .null)]),
      ("w", .directory [("app.bc", .file [2] false), ("app.bc.xxh3", .link ⟨"/dev/null"⟩)])] }

/-- A small build for the second time. The file of the fingerprint holds something else, and there
is no room in it. -/
def fullTree : FileTree where
  entries := [("debase", .file [1] true), ("w", .directory [("app.bc", .file [2] false),
    ("app.bc.xxh3", .file [3] false)])]
  room l := if l = ["w", "app.bc.xxh3"] then some 0 else none

/-- That build starts there. -/
def fullState : BuildState Unit := ⟨fullTree, (), .empty⟩

/-- There is work to do, and the tool is called. -/
theorem called_full : smallBuilder.Called smallRequest fullState
    (smallBuilder.debaseCall smallRequest fullState).1
    { fullState with
      files := smallBuilder.filesLeft smallRequest fullState
      tools := (smallBuilder.debaseCall smallRequest fullState).2.2 } := by
  have hfound : fullState.files.contains smallBuilder.cwd smallRequest.targetPath = true := by
    decide +kernel
  have hstale : smallBuilder.isUpToDate smallRequest fullState.files = false := by decide +kernel
  have hcreated : (fullState.files.createDirectories smallBuilder.cwd smallRequest.libDir).1.isOk =
      true := by decide +kernel
  refine called_debaseCall hfound hstale ?_
  rcases hmade : (fullState.files.createDirectories smallBuilder.cwd smallRequest.libDir).1 with
    fault | ⟨⟩
  · simp [hmade, Except.isOk, Except.toBool] at hcreated
  · rfl

/-- **A fingerprint is not always kept.** The small build ends well after a call, and nothing is
read from the file of the fingerprint. And where there is no room for the fingerprint, the step
fails but does not leave its file as the tool has left it. -/
theorem not_always_kept :
    (¬ ∀ (b : Builder Unit) (r : Request) (st st' : BuildState Unit) (outcome : DebaseOutcome),
      (b.debase r).run st = (.ok outcome, st') → outcome.cached = false →
        ∃ s, (b.fingerprintInputs r).Reads (b.filesLeft r st) b.cwd s ∧
          (sidecar r).Spells st'.files b.cwd s.hash) ∧
    ¬ ∀ (b : Builder Unit) (r : Request) (st left st' : BuildState Unit)
        (answer : Except FileFault ToolOutput) (e : BuildError),
      b.Called r st answer left → (b.debase r).run st = (.error e, st') →
        st'.files.read b.cwd (sidecar r).path = left.files.read b.cwd (sidecar r).path := by
  constructor
  · intro h
    have hcalled : ((smallBuilder.debase smallRequest).run ⟨nullTree, (), .empty⟩).1.toOption.map
        DebaseOutcome.cached = some false := by decide +kernel
    have hlost : ((sidecar smallRequest).load
        ((smallBuilder.debase smallRequest).run ⟨nullTree, (), .empty⟩).2.files
        smallBuilder.cwd).toOption = none := by decide +kernel
    rcases hrun : (smallBuilder.debase smallRequest).run ⟨nullTree, (), .empty⟩ with
      ⟨e | outcome, st'⟩
    · simp [hrun, Except.toOption] at hcalled
    · rw [hrun] at hcalled hlost
      obtain ⟨s, -, hspells⟩ := h smallBuilder smallRequest _ st' outcome hrun
        (by simpa [Except.toOption] using hcalled)
      rw [Sidecar.load_eq_ok_iff.2 hspells] at hlost
      simp [Except.toOption] at hlost
  · intro h
    have hfailed : ((smallBuilder.debase smallRequest).run fullState).1.isOk = false := by
      decide +kernel
    have hread : ((smallBuilder.filesLeft smallRequest fullState).read smallBuilder.cwd
        (sidecar smallRequest).path).toOption = some [3] := by decide +kernel
    have hemptied : (((smallBuilder.debase smallRequest).run fullState).2.files.read
        smallBuilder.cwd (sidecar smallRequest).path).toOption = some [] := by decide +kernel
    rcases hrun : (smallBuilder.debase smallRequest).run fullState with ⟨e | outcome, st'⟩
    · rw [hrun] at hemptied
      have hsame := h smallBuilder smallRequest _ _ st' _ e called_full hrun
      rw [hsame, hread] at hemptied
      simp at hemptied
    · simp [hrun, Except.isOk, Except.toBool] at hfailed

end Builder

end ModuleBuild
