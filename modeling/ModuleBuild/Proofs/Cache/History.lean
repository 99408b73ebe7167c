import ModuleBuild.Proofs.Build.Debasing
import ModuleBuild.Proofs.Cache.Snapshot

/-!
# Histories of the first step

Over time the first step is carried out for many requests, by many builders, with edits in between.
As long as nobody but the builders writes a file that keeps a fingerprint, that file holds the
fingerprint which the last call that took one anew has put there. So a call that finds its work up
to date is right: what it reads is what that call has read.

## Main definitions

* `Event`, `stateAfter` — what happens, and the state after a history
* `Untouched` — only builders write the file at a location
* `Builder.Refreshes` — a call takes the fingerprint anew
* `LastRefresh` — the last call of a history that does so

## Main results

* `Builder.refreshes_iff` — these are the calls that end well and were not skipped
* `Untouched.lastRefresh` — the file holds the fingerprint of the last refresh
* `Untouched.lastRefresh_of_isUpToDate` — work that is up to date has such a fingerprint
* `Builder.cached_since_refresh` — what a skipped call rests on
-/

namespace ModuleBuild

variable {σ : Type}

/-- What happens over time. -/
inductive Event (σ : Type) where
  /-- Files are edited. -/
  | edit (files : FileTree)
  /-- The first step is carried out. -/
  | call (b : Builder σ) (r : Request)

/-- The state after an event. -/
def Event.run : Event σ → BuildState σ → BuildState σ
  | edit files, st => { st with files }
  | call b r, st => ((b.debase r).run st).2

/-- The state after a history, the latest event of which comes first. -/
def stateAfter (st : BuildState σ) : List (Event σ) → BuildState σ
  | [] => st
  | e :: earlier => e.run (stateAfter st earlier)

theorem stateAfter_append (st : BuildState σ) (later earlier : List (Event σ)) :
    stateAfter st (later ++ earlier) = stateAfter (stateAfter st earlier) later := by
  induction later with
  | nil => rfl
  | cons e later ih => exact congrArg e.run ih

/-- An edit that writes no file at a location, or a call in which the tool writes none. -/
def Event.Spares (l : Location) (st : BuildState σ) : Event σ → Prop
  | edit files => FileTree.Spares l st.files files
  | call b r => ∀ answer st', b.Called r st answer st' →
    FileTree.Spares l (st.files.createDirectories b.cwd r.libDir).2 st'.files

/-- A call spares a location if the tool leaves there what was there. -/
theorem Event.spares_call {b : Builder σ} {r : Request} {st : BuildState σ} {l : Location}
    (h : (b.runner.run (b.debaseInvocation r) (st.files.createDirectories b.cwd r.libDir).2
        st.tools).2.1.entryAt? l = (st.files.createDirectories b.cwd r.libDir).2.entryAt? l) :
    (Event.call b r).Spares l st := by
  intro answer st' called
  rw [called.run_eq] at h
  exact .of_eq h

/-- There was no file at a location when the history began, and none has been written there but by
builders themselves. -/
def Untouched (l : Location) (st : BuildState σ) : List (Event σ) → Prop
  | [] => ∀ content runnable, st.files.entryAt? l ≠ some (.file content runnable)
  | e :: earlier => Untouched l st earlier ∧ e.Spares l (stateAfter st earlier)

namespace Builder

variable {b : Builder σ} {r : Request} {st st' st'' : BuildState σ} {l m : Location}
  {s s' : Snapshot} {answer answer' : Except FileFault ToolOutput}

/-- A call puts a fingerprint into the file at `l`: its tool ended well in the state `st'` with a
manifest, and `s` was found then. -/
structure Refreshes (b : Builder σ) (r : Request) (st st' : BuildState σ) (l : Location)
    (s : Snapshot) : Prop where
  /-- The tool ended well. -/
  called : ∃ output, b.Called r st (.ok output) st' ∧ output.succeeded = true
  /-- There is a manifest. -/
  written : st'.files.isFile b.cwd r.manifestPath = true
  /-- This is found in the files. -/
  reads : (b.fingerprintInputs r).Reads st'.files b.cwd s
  /-- The file of the fingerprint lies there. -/
  located : st'.files.locate b.cwd (sidecar r).path = .ok l
  /-- The fingerprint can be put into it. -/
  saved : ∃ files, (sidecar r).save st'.files b.cwd s.hash = .ok files

/-- What comes of a call that takes the fingerprint anew. -/
theorem Refreshes.run_debase (h : b.Refreshes r st st' l s) :
    ∃ files, (sidecar r).save st'.files b.cwd s.hash = .ok files ∧
      (b.debase r).run st =
        (.ok ⟨r.manifestPath, some (b.debaseInvocation r)⟩, { st' with files }) := by
  obtain ⟨output, called, succeeded⟩ := h.called
  obtain ⟨files, saved⟩ := h.saved
  have kept : (sidecar r).refresh st'.files b.cwd (b.fingerprintInputs r) = .ok (s.hash, files) :=
    Sidecar.refresh_eq_ok.2 ⟨FingerprintInputs.compute_eq_ok.2 ⟨s, h.reads, rfl⟩, saved⟩
  have hends : b.Debased r st (.ok ⟨r.manifestPath, some (b.debaseInvocation r)⟩)
      { st' with files } := .refreshed called succeeded h.written kept
  exact ⟨files, saved, hends.run_eq⟩

/-- An end with a fingerprint taken anew is that of such a call. -/
theorem exists_refreshes {hash : ContentHash} {files : FileTree} {output : ToolOutput}
    (called : b.Called r st (.ok output) st') (succeeded : output.succeeded = true)
    (written : st'.files.isFile b.cwd r.manifestPath = true)
    (kept : (sidecar r).refresh st'.files b.cwd (b.fingerprintInputs r) = .ok (hash, files)) :
    ∃ l s, b.Refreshes r st st' l s := by
  obtain ⟨hcompute, hsave⟩ := Sidecar.refresh_eq_ok.1 kept
  obtain ⟨s, reads, rfl⟩ := FingerprintInputs.compute_eq_ok.1 hcompute
  obtain ⟨l, hl⟩ := FileTree.locate_of_write (Sidecar.save_eq_ok.1 hsave)
  exact ⟨l, s, ⟨output, called, succeeded⟩, written, reads, hl, files, hsave⟩

/-- **A call takes the fingerprint anew** if it ends well and was not skipped. -/
theorem refreshes_iff : (∃ st' l s, b.Refreshes r st st' l s) ↔
    ∃ outcome st'', (b.debase r).run st = (.ok outcome, st'') ∧ outcome.cached = false := by
  constructor
  · rintro ⟨st', l, s, h⟩
    obtain ⟨files, -, hrun⟩ := h.run_debase
    exact ⟨_, _, hrun, rfl⟩
  · rintro ⟨outcome, st'', hrun, hcached⟩
    have ends := debased_run b r st
    rw [hrun] at ends
    cases ends with
    | cached => simp [DebaseOutcome.cached] at hcached
    | refreshed called succeeded written kept =>
      exact ⟨_, exists_refreshes called succeeded written kept⟩

/-- What a call leaves alone that takes no fingerprint anew at a location. A file that is there
afterwards had its content before, or was emptied in the attempt. -/
theorem content_of_debase (hno : ∀ st' s, ¬ b.Refreshes r st st' l s)
    (hspares : (Event.call b r).Spares l st) {content : Bytes} {runnable : Bool}
    (hf : ((b.debase r).run st).2.files.entryAt? l = some (.file content runnable)) :
    content = [] ∨ ∃ runnable', st.files.entryAt? l = some (.file content runnable') := by
  have hmade : FileTree.Spares l st.files (st.files.createDirectories b.cwd r.libDir).2 :=
    FileTree.spares_createDirectories l st.files b.cwd r.libDir
  have ends := debased_run b r st
  generalize (b.debase r).run st = out at ends hf
  obtain ⟨result, final⟩ := out
  cases ends with
  | targetMissing => exact .inr ⟨_, hf⟩
  | cached => exact .inr ⟨_, hf⟩
  | notCreated => exact .inr (hmade _ _ hf)
  | notSpawned called => exact .inr (hmade.trans (hspares _ _ called) _ _ hf)
  | toolFailed called => exact .inr (hmade.trans (hspares _ _ called) _ _ hf)
  | manifestNotWritten called => exact .inr (hmade.trans (hspares _ _ called) _ _ hf)
  | @notRefreshed output st' e called succeeded written failed =>
    have hleft := hmade.trans (hspares _ _ called)
    replace hf : ((sidecar r).afterRefresh st'.files b.cwd (b.fingerprintInputs r)).entryAt? l =
      some (.file content runnable) := hf
    rcases Sidecar.afterRefresh_of_error failed with hsame | ⟨-, -, hemptied⟩
    · rw [hsame] at hf
      exact .inr (hleft _ _ hf)
    · rcases FileTree.content_of_write_nil hemptied hf with hnil | ⟨runnable', hf'⟩
      · exact .inl hnil
      · exact .inr (hleft _ _ hf')
  | @refreshed output st' hash files called succeeded written kept =>
    obtain ⟨m, s, h⟩ := exists_refreshes called succeeded written kept
    have hne : l ≠ m := by
      rintro rfl
      exact hno st' s h
    have hsave := Sidecar.save_eq_ok.1 (Sidecar.refresh_eq_ok.1 kept).2
    have hwritten := FileTree.spares_write hsave h.located hne
    exact .inr ((hmade.trans (hspares _ _ called)).trans hwritten _ _ hf)

/-- What a call leaves at the location where it takes the fingerprint anew. -/
theorem Refreshes.content_eq (h : b.Refreshes r st st' l s) {content : Bytes} {runnable : Bool}
    (hf : ((b.debase r).run st).2.files.entryAt? l = some (.file content runnable)) :
    content = Sidecar.content s.hash := by
  obtain ⟨files, hsave, hrun⟩ := h.run_debase
  rw [hrun] at hf
  exact FileTree.content_of_write (Sidecar.save_eq_ok.1 hsave) h.located hf

end Builder

/-- The last call of a history that put a fingerprint into the file at `l` was that of `b` for `r`,
with a part of the history before it; its tool ended in the state `st'`, and `s` was found then. -/
inductive LastRefresh (st : BuildState σ) (l : Location) :
    List (Event σ) → Builder σ → Request → List (Event σ) → BuildState σ → Snapshot → Prop where
  /-- It is the latest event. -/
  | latest {b : Builder σ} {r : Request} {earlier : List (Event σ)} {st' : BuildState σ}
    {s : Snapshot} (h : b.Refreshes r (stateAfter st earlier) st' l s) :
    LastRefresh st l (.call b r :: earlier) b r earlier st' s
  /-- It comes before the latest event, which is an edit. -/
  | edit {files : FileTree} {events : List (Event σ)} {b : Builder σ} {r : Request}
    {earlier : List (Event σ)} {st' : BuildState σ} {s : Snapshot}
    (before : LastRefresh st l events b r earlier st' s) :
    LastRefresh st l (.edit files :: events) b r earlier st' s
  /-- It comes before the latest event, which is a call that puts no fingerprint there. -/
  | call {b' : Builder σ} {r' : Request} {events : List (Event σ)} {b : Builder σ} {r : Request}
    {earlier : List (Event σ)} {st' : BuildState σ} {s : Snapshot}
    (hno : ∀ st'' s', ¬ b'.Refreshes r' (stateAfter st events) st'' l s')
    (before : LastRefresh st l events b r earlier st' s) :
    LastRefresh st l (.call b' r' :: events) b r earlier st' s

section

variable {st st' : BuildState σ} {events earlier : List (Event σ)} {b : Builder σ} {r : Request}
  {l : Location} {s : Snapshot}

/-- The last refresh is a call of the history, and one that takes the fingerprint anew. -/
theorem LastRefresh.refreshes (h : LastRefresh st l events b r earlier st' s) :
    (∃ later, events = later ++ .call b r :: earlier) ∧
      b.Refreshes r (stateAfter st earlier) st' l s := by
  induction h with
  | latest h => exact ⟨⟨[], rfl⟩, h⟩
  | edit _ ih =>
    obtain ⟨⟨later, rfl⟩, h⟩ := ih
    exact ⟨⟨_ :: later, rfl⟩, h⟩
  | call _ _ ih =>
    obtain ⟨⟨later, rfl⟩, h⟩ := ih
    exact ⟨⟨_ :: later, rfl⟩, h⟩

/-- **The file holds the fingerprint of the last refresh**, unless it was emptied since by an
attempt to take the fingerprint anew for which there was no room. -/
theorem Untouched.lastRefresh (h : Untouched l st events) {content : Bytes} {runnable : Bool}
    (hf : (stateAfter st events).files.entryAt? l = some (.file content runnable))
    (hne : content ≠ []) :
    ∃ b r earlier st' s, LastRefresh st l events b r earlier st' s ∧
      content = Sidecar.content s.hash := by
  induction events generalizing content runnable with
  | nil => exact absurd hf (h content runnable)
  | cons e events ih =>
    obtain ⟨hbefore, hspares⟩ := h
    cases e with
    | edit files =>
      obtain ⟨runnable', hf'⟩ := hspares content runnable hf
      obtain ⟨b, r, earlier, st', s, hlast, hcontent⟩ := ih hbefore hf' hne
      exact ⟨b, r, earlier, st', s, .edit hlast, hcontent⟩
    | call b r =>
      by_cases hr : ∃ st' s, b.Refreshes r (stateAfter st events) st' l s
      · obtain ⟨st', s, hr⟩ := hr
        exact ⟨b, r, events, st', s, .latest hr, hr.content_eq hf⟩
      · have hno : ∀ st' s, ¬ b.Refreshes r (stateAfter st events) st' l s :=
          fun st' s h => hr ⟨st', s, h⟩
        obtain ⟨runnable', hf'⟩ := (Builder.content_of_debase hno hspares hf).resolve_left hne
        obtain ⟨b', r', earlier, st', s, hlast, hcontent⟩ := ih hbefore hf' hne
        exact ⟨b', r', earlier, st', s, .call hno hlast, hcontent⟩

/-- A call is skipped only if its work is up to date, and then it changes nothing. -/
theorem Builder.fresh_of_cached {st : BuildState σ} {outcome : DebaseOutcome}
    (hrun : (b.debase r).run st = (.ok outcome, st')) (hcached : outcome.cached = true) :
    b.isUpToDate r st.files = true ∧ st' = st := by
  have ends := debased_run b r st
  rw [hrun] at ends
  cases ends with
  | cached _ fresh => exact ⟨fresh, rfl⟩
  | refreshed => simp [DebaseOutcome.cached] at hcached

/-- Work that is up to date has the fingerprint of a last refresh. -/
theorem Untouched.lastRefresh_of_isUpToDate
    (h : ∀ l, (stateAfter st events).files.locate b.cwd (Builder.sidecar r).path = .ok l →
      Untouched l st events)
    (hfresh : b.isUpToDate r (stateAfter st events).files = true) :
    ∃ l, (stateAfter st events).files.locate b.cwd (Builder.sidecar r).path = .ok l ∧
      ∃ b' r' earlier st₁ old now, LastRefresh st l events b' r' earlier st₁ old ∧
        (b.fingerprintInputs r).Reads (stateAfter st events).files b.cwd now ∧
        old.hash = now.hash := by
  simp only [Builder.isUpToDate, Bool.and_eq_true] at hfresh
  obtain ⟨⟨-, hpresent⟩, hfresh⟩ := hfresh
  obtain ⟨l, content, runnable, hl, hf⟩ := FileTree.isFile_iff.1 hpresent
  obtain ⟨stored, hload, hcompute⟩ := Sidecar.isFresh_iff.1 hfresh
  obtain ⟨now, hnow, rfl⟩ := FingerprintInputs.compute_eq_ok.1 hcompute
  have hne : content ≠ [] := by
    rintro rfl
    simp [Sidecar.load_of_empty hl hf] at hload
  obtain ⟨b', r', earlier, st₁, old, hlast, rfl⟩ := (h l hl).lastRefresh hf hne
  have hhash : old.hash = now.hash :=
    Except.ok.inj ((Sidecar.load_of_saved hl hf).symm.trans hload)
  exact ⟨l, hl, b', r', earlier, st₁, old, now, hlast, hnow, hhash⟩

/-- **What a skipped call rests on.** If nobody but builders has written the file of the fingerprint
since there was none, then a call that is skipped comes after one that has taken the fingerprint
anew in the same file. What the last such call has read has the same fingerprint as what is there
now; so it is the same, unless the two streams collide. -/
theorem Builder.cached_since_refresh {outcome : DebaseOutcome}
    (h : ∀ l, (stateAfter st events).files.locate b.cwd (sidecar r).path = .ok l →
      Untouched l st events)
    (hrun : (b.debase r).run (stateAfter st events) = (.ok outcome, st'))
    (hcached : outcome.cached = true) :
    ∃ l, (stateAfter st events).files.locate b.cwd (sidecar r).path = .ok l ∧
      ∃ b' r' earlier st₁ old now, LastRefresh st l events b' r' earlier st₁ old ∧
        (b.fingerprintInputs r).Reads (stateAfter st events).files b.cwd now ∧
        old.hash = now.hash ∧
        (old.Fits → now.Fits → ¬ old.Collides now → old = now) := by
  obtain ⟨l, hl, b', r', earlier, st₁, old, now, hlast, hnow, hhash⟩ :=
    Untouched.lastRefresh_of_isUpToDate h (fresh_of_cached hrun hcached).1
  exact ⟨l, hl, b', r', earlier, st₁, old, now, hlast, hnow, hhash,
    fun hold hfits hno => Snapshot.eq_of_hash_eq hold hfits hno hhash⟩

/-- The state before the small build. -/
def Builder.smallState : BuildState Unit := ⟨smallTree, (), .empty⟩

/-- The small build, and after it an edit of another file. -/
def Builder.smallHistory : List (Event Unit) :=
  let built : List (Event Unit) := [.call smallBuilder smallRequest]
  .edit ((stateAfter smallState built).files.put ["w", "notes"] (.file [3] false)) :: built

open Builder in
/-- The small build is skipped the second time. -/
theorem Builder.cached_since_refresh_small :
    ((smallBuilder.debase smallRequest).run (stateAfter smallState smallHistory)).1.toOption.map
        DebaseOutcome.cached = some true ∧
      ∃ l, (stateAfter smallState smallHistory).files.locate smallBuilder.cwd
          (sidecar smallRequest).path = .ok l ∧
      ∃ b' r' earlier st₁ old now,
        LastRefresh smallState l smallHistory b' r' earlier st₁ old ∧
        (smallBuilder.fingerprintInputs smallRequest).Reads
          (stateAfter smallState smallHistory).files smallBuilder.cwd now ∧
        old.hash = now.hash ∧ (old.Fits → now.Fits → ¬ old.Collides now → old = now) := by
  have hskipped : ((smallBuilder.debase smallRequest).run
      (stateAfter smallState smallHistory)).1.toOption.map DebaseOutcome.cached = some true := by
    decide +kernel
  refine ⟨hskipped, ?_⟩
  have hl : ((stateAfter smallState smallHistory).files.locate smallBuilder.cwd
      (sidecar smallRequest).path).toOption = some ["w", "app.bc.xxh3"] := by decide +kernel
  have huntouched : Untouched ["w", "app.bc.xxh3"] smallState smallHistory := by
    refine ⟨⟨?_, ?_⟩, ?_⟩
    · have hnone : smallState.files.entryAt? ["w", "app.bc.xxh3"] = none := by decide +kernel
      simp [Untouched, hnone]
    · refine Event.spares_call ?_
      decide +kernel
    · refine .of_eq ?_
      decide +kernel
  have hall : ∀ l, (stateAfter smallState smallHistory).files.locate smallBuilder.cwd
      (sidecar smallRequest).path = .ok l → Untouched l smallState smallHistory := by
    intro l hl'
    rw [hl'] at hl
    exact Option.some.inj hl ▸ huntouched
  rcases hrun : (smallBuilder.debase smallRequest).run (stateAfter smallState smallHistory) with
    ⟨e | outcome, st'⟩
  · simp [hrun, Except.toOption] at hskipped
  · refine cached_since_refresh hall hrun ?_
    simpa [hrun, Except.toOption] using hskipped

end

end ModuleBuild
