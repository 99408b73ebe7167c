import ModuleBuild.FileTree.Question
import ModuleBuild.Proofs.Build.Contract
import ModuleBuild.Proofs.Cache.History

/-!
# The call after a call

A call of the first tool that ends well leaves a fingerprint, and the next call for the same work is
skipped: what was written is read back, and the fingerprint that is computed then is the one that
was computed before it was written. The second request need not be the first one. It must be for the
same target, the same manifest and the same configuration texts, and the files must look the same
where the fingerprint looks; all else may have changed.

## What the fingerprint is taken of

The fingerprint is computed when the tool has ended, so it tells of the target as the tool has left
it. If the target was changed while the tool ran, by the tool or by others, then the changed target
counts as done, and `Builder.not_recorded_as_found` shows such a build. What changes after the end
of the tool is noticed.

## Main definitions

* `FileTree.Agrees` — a path looks the same in two trees
* `Request.SameWork` — two requests ask the first tool for the same work
* `FingerprintInputs.paths` — the files that a fingerprint is taken of

## Main results

* `Builder.upToDate_of_refreshed` — after a call that ends well its work is up to date
* `Builder.UpToDate.transfer` — for the same work it is up to date wherever the files look the same
* `Builder.skipped_after_call` — the next call for the same work is skipped
* `Builder.recorded_as_left` — what is recorded is the target that the tool has left
-/

namespace ModuleBuild

/-! ### Paths that look the same -/

namespace FileTree

variable {t t' : FileTree} {cwd cwd' l m : Location} {p q : Path} {content : Bytes}

/-- A path looks the same in two trees: it leads to a file in both of them or in none, and the same
is read from it. -/
structure Agrees (t : FileTree) (cwd : Location) (t' : FileTree) (cwd' : Location) (p : Path) :
    Prop where
  /-- It leads to a file in both of them or in none. -/
  isFile_eq : t'.isFile cwd' p = t.isFile cwd p
  /-- The same is read from it. -/
  read_eq : (t'.read cwd' p).toOption = (t.read cwd p).toOption

theorem Agrees.read (h : t.Agrees cwd t' cwd' p) (hread : t.read cwd p = .ok content) :
    t'.read cwd' p = .ok content := by
  refine ok_of_toOption ?_
  rw [h.read_eq, hread]
  rfl

/-- Paths that are not the same place after a write were not the same place before it. -/
theorem ne_of_isSame_eq_false (hp : t.locate cwd p = .ok l) (hq : t.locate cwd q = .ok m)
    (hm : (t.entryAt? m).isSome = true) (h : t.isSame cwd p q = false) : l ≠ m := by
  rintro rfl
  simp [isSame, placeOf?, hp, hq, hm, Except.toOption] at h

end FileTree

/-- A hash that a file spells is spelled wherever the file looks the same. -/
theorem Sidecar.Spells.of_agrees {s : Sidecar} {files files' : FileTree} {cwd cwd' : Location}
    {hash : ContentHash} (h : s.Spells files cwd hash)
    (hagree : files.Agrees cwd files' cwd' s.path) : s.Spells files' cwd' hash := by
  obtain ⟨text, htext, hlength, hdecode⟩ := h
  obtain ⟨content, hread, hcontent⟩ := FileTree.readText_eq_ok.1 htext
  exact ⟨text, FileTree.readText_eq_ok.2 ⟨content, hagree.read hread, hcontent⟩, hlength, hdecode⟩

namespace FingerprintInputs

variable {i : FingerprintInputs} {files files' : FileTree} {cwd cwd' : Location} {s : Snapshot}

/-- The files that a fingerprint is taken of. -/
def paths (i : FingerprintInputs) : List Path := [i.tool, i.target, i.manifest]

theorem forall_mem_paths {P : Path → Prop} :
    (∀ p ∈ i.paths, P p) ↔ P i.tool ∧ P i.target ∧ P i.manifest := by
  simp [paths]

theorem Reads.of_agrees (h : i.Reads files cwd s)
    (hagree : ∀ p ∈ i.paths, files.Agrees cwd files' cwd' p) : i.Reads files' cwd' s := by
  obtain ⟨htool, htarget, hmanifest⟩ := forall_mem_paths.1 hagree
  exact ⟨htool.read h.tool, htarget.read h.target, hmanifest.read h.manifest, h.config⟩

end FingerprintInputs

/-- Two requests ask the first tool for the same work. They may differ in what becomes of it. -/
structure Request.SameWork (r r' : Request) : Prop where
  /-- They have one output directory. -/
  outputDir_eq : r'.outputDir = r.outputDir
  /-- They are for one target. -/
  target_eq : r'.target = r.target
  /-- The manifest has one name. -/
  manifestName_eq : r'.manifestName = r.manifestName
  /-- They have the same configuration texts. -/
  config_eq : r'.configStrings = r.configStrings

namespace Builder

variable {σ τ : Type} {b : Builder σ} {b' : Builder τ} {r r' : Request}
  {st st' : BuildState σ} {files files' : FileTree} {outcome : DebaseOutcome}

/-! ### Work that is up to date stays so -/

theorem sidecar_eq (h : r.SameWork r') : sidecar r' = sidecar r := by
  rw [sidecar, sidecar, h.outputDir_eq, h.target_eq]

theorem manifestPath_eq (h : r.SameWork r') : r'.manifestPath = r.manifestPath := by
  rw [Request.manifestPath, Request.manifestPath, Request.libDir, Request.libDir, h.outputDir_eq,
    h.manifestName_eq]

theorem fingerprintInputs_eq (htool : b'.toolchain.debase = b.toolchain.debase)
    (h : r.SameWork r') : b'.fingerprintInputs r' = b.fingerprintInputs r := by
  simp only [fingerprintInputs, htool, manifestPath_eq h, h.config_eq, Request.targetPath,
    h.outputDir_eq, h.target_eq]

/-- **Work that is up to date** is so for every request for the same work, wherever the files look
the same. -/
theorem UpToDate.transfer (h : b.UpToDate r files)
    (htool : b'.toolchain.debase = b.toolchain.debase) (hwork : r.SameWork r')
    (hagree : ∀ p ∈ (sidecar r).path :: (b.fingerprintInputs r).paths,
      files.Agrees b.cwd files' b'.cwd p) : b'.UpToDate r' files' := by
  obtain ⟨hsidecar, hinputs⟩ := List.forall_mem_cons.1 hagree
  obtain ⟨s, hreads, hspells⟩ := h.fresh
  have hreads' : (b'.fingerprintInputs r').Reads files' b'.cwd s := by
    rw [fingerprintInputs_eq htool hwork]
    exact hreads.of_agrees hinputs
  have hmanifest : files.Agrees b.cwd files' b'.cwd r.manifestPath :=
    (FingerprintInputs.forall_mem_paths.1 hinputs).2.2
  constructor
  case target => exact FileTree.contains_of_read hreads'.target
  case manifest => rw [manifestPath_eq hwork, hmanifest.isFile_eq, h.manifest]
  case kept => rw [sidecar_eq hwork, hsidecar.isFile_eq, h.kept]
  case fresh =>
    rw [sidecar_eq hwork]
    exact ⟨s, hreads', hspells.of_agrees hsidecar⟩

/-- A call for work that is up to date. -/
theorem UpToDate.run_debase (h : b.UpToDate r st.files) :
    (b.debase r).run st = (.ok ⟨r.manifestPath, none⟩, st) := by
  obtain ⟨hfound, hfresh⟩ := upToDate_iff.1 h
  exact run_debase_of_fresh hfound hfresh

/-! ### After a call that ends well -/

theorem Called.filesLeft_eq {answer : Except FileFault ToolOutput}
    (h : b.Called r st answer st') : b.filesLeft r st = st'.files := by
  rw [filesLeft, debaseCall, debaseFiles, h.run_eq]

/-- What a call that ends well has read when the tool had ended, and what it has written then. -/
theorem exists_ended (hrun : (b.debase r).run st = (.ok outcome, st'))
    (hmiss : outcome.cached = false) :
    ∃ ended, (b.fingerprintInputs r).Reads (b.filesLeft r st) b.cwd ended ∧
      (b.filesLeft r st).isFile b.cwd r.manifestPath = true ∧
      (sidecar r).save (b.filesLeft r st) b.cwd ended.hash = .ok st'.files := by
  obtain ⟨left, l, ended, h⟩ := refreshes_iff.2 ⟨outcome, st', hrun, hmiss⟩
  obtain ⟨files, hsave, hrun'⟩ := h.run_debase
  obtain ⟨-, rfl⟩ := Prod.mk.inj (hrun.symm.trans hrun')
  obtain ⟨output, called, -⟩ := h.called
  rw [called.filesLeft_eq]
  exact ⟨ended, h.reads, h.written, hsave⟩

variable {left : FileTree} {ended : Snapshot}

/-- After a fingerprint was written its file spells it, unless it is a device. -/
theorem spells_of_save (hsave : (sidecar r).save left b.cwd ended.hash = .ok files)
    (hdevice : files.isDevice b.cwd (sidecar r).path = false) :
    files.isFile b.cwd (sidecar r).path = true ∧
      (sidecar r).Spells files b.cwd ended.hash := by
  rw [Sidecar.save_eq_ok] at hsave
  have hleft : left.isDevice b.cwd (sidecar r).path = false := by
    rcases hd : left.isDevice b.cwd (sidecar r).path with _ | _
    · rfl
    · rw [FileTree.eq_of_write_of_isDevice hsave hd, hd] at hdevice
      exact hdevice
  obtain ⟨l, runnable, -, hl, hentry, -⟩ := FileTree.gains_of_write hsave hleft
  exact ⟨FileTree.isFile_of_write hsave hleft,
    Sidecar.load_eq_ok_iff.1 (Sidecar.load_of_saved hl hentry)⟩

/-- What a fingerprint is taken of is not changed when it is written, unless it is written there. -/
theorem entry_of_save {p : Path} {content : Bytes}
    (hsave : (sidecar r).save left b.cwd ended.hash = .ok files)
    (hkept : files.isFile b.cwd (sidecar r).path = true)
    (hread : left.read b.cwd p = .ok content)
    (hapart : files.isSame b.cwd p (sidecar r).path = false) :
    files.entry b.cwd p = left.entry b.cwd p := by
  rw [Sidecar.save_eq_ok] at hsave
  obtain ⟨m, hm⟩ := FileTree.locate_of_read hread
  obtain ⟨l, hl⟩ := FileTree.locate_of_write hsave
  have hl' := FileTree.locate_after_write hsave hl
  have hthere : (files.entryAt? l).isSome = true := by
    obtain ⟨k, content', runnable, hk, hentry⟩ := FileTree.isFile_iff.1 hkept
    obtain rfl : l = k := Except.ok.inj (hl'.symm.trans hk)
    rw [hentry]
    rfl
  have hne : m ≠ l := FileTree.ne_of_isSame_eq_false (FileTree.locate_after_write hsave hm) hl'
    hthere hapart
  exact FileTree.entry_of_write_of_ne hsave hl hm hne

/-- **After a call that ends well its work is up to date**, unless the fingerprint was written into
one of the files that it is taken of, or to a device. -/
theorem upToDate_of_refreshed (hrun : (b.debase r).run st = (.ok outcome, st'))
    (hmiss : outcome.cached = false)
    (hapart : ∀ p ∈ (b.fingerprintInputs r).paths,
      st'.files.isSame b.cwd p (sidecar r).path = false)
    (hdevice : st'.files.isDevice b.cwd (sidecar r).path = false) : b.UpToDate r st'.files := by
  obtain ⟨ended, hreads, hmanifest, hsave⟩ := exists_ended hrun hmiss
  obtain ⟨hkept, hspells⟩ := spells_of_save hsave hdevice
  obtain ⟨hatool, hatarget, hamanifest⟩ := FingerprintInputs.forall_mem_paths.1 hapart
  have hmanifestEntry := entry_of_save hsave hkept hreads.manifest hamanifest
  have hsame : ∀ {p content}, (b.filesLeft r st).read b.cwd p = .ok content →
      st'.files.isSame b.cwd p (sidecar r).path = false → st'.files.read b.cwd p = .ok content := by
    intro p content hread hpapart
    rw [← hread, FileTree.read, FileTree.read, entry_of_save hsave hkept hread hpapart]
  have hreads' : (b.fingerprintInputs r).Reads st'.files b.cwd ended :=
    ⟨hsame hreads.tool hatool, hsame hreads.target hatarget, hsame hreads.manifest hamanifest,
      hreads.config⟩
  constructor
  case target => exact FileTree.contains_of_read hreads'.target
  case manifest =>
    rw [FileTree.isFile] at hmanifest ⊢
    have hentry : st'.files.entry b.cwd r.manifestPath =
        (b.filesLeft r st).entry b.cwd r.manifestPath := hmanifestEntry
    rw [hentry]
    exact hmanifest
  case kept => exact hkept
  case fresh => exact ⟨ended, hreads', hspells⟩

/-- **The next call is skipped.** After a call that ends well and was not skipped, a call for the
same work of the same tool is skipped wherever the files look the same to the fingerprint: there is
no tool call, and nothing changes. -/
theorem skipped_after_call (hrun : (b.debase r).run st = (.ok outcome, st'))
    (hmiss : outcome.cached = false)
    (hapart : ∀ p ∈ (b.fingerprintInputs r).paths,
      st'.files.isSame b.cwd p (sidecar r).path = false)
    (hdevice : st'.files.isDevice b.cwd (sidecar r).path = false)
    (htool : b'.toolchain.debase = b.toolchain.debase) (hwork : r.SameWork r')
    (later : BuildState (List Call × τ))
    (hagree : ∀ p ∈ (sidecar r).path :: (b.fingerprintInputs r).paths,
      st'.files.Agrees b.cwd later.files b'.cwd p) :
    (b'.logging.debase r').run later = (.ok ⟨r.manifestPath, none⟩, later) := by
  have hfresh : b'.logging.UpToDate r' later.files :=
    (upToDate_of_refreshed hrun hmiss hapart hdevice).transfer htool hwork hagree
  rw [hfresh.run_debase, manifestPath_eq hwork]

/-- The small build for another profile, with a list of the objects. -/
def smallRelease : Request :=
  { smallRequest with profile := .release, publish := .response ⟨"/w/app.rsp"⟩ }

/-- The small build has left the files, and others have been written since. -/
def smallFilesLater : FileTree :=
  ((smallBuilder.debase smallRequest).run ⟨smallTree, (), .empty⟩).2.files.put ["w", "notes"]
    (.file [3] false)

/-- The small build is skipped for another profile, although others have written files since. -/
theorem skipped_after_call_small :
    (smallBuilder.logging.debase smallRelease).run ⟨smallFilesLater, ([], ()), .empty⟩ =
      (.ok ⟨smallRequest.manifestPath, none⟩, ⟨smallFilesLater, ([], ()), .empty⟩) := by
  have hmiss : ((smallBuilder.debase smallRequest).run ⟨smallTree, (), .empty⟩).1.toOption.map
      DebaseOutcome.cached = some false := by decide +kernel
  rcases hrun : (smallBuilder.debase smallRequest).run ⟨smallTree, (), .empty⟩ with
    ⟨e | outcome, st'⟩
  · simp [hrun, Except.toOption] at hmiss
  have hst' : st' = ((smallBuilder.debase smallRequest).run ⟨smallTree, (), .empty⟩).2 := by
    rw [hrun]
  refine skipped_after_call hrun ?_ ?_ ?_ rfl ⟨rfl, rfl, rfl, rfl⟩ _ ?_
  · simpa [hrun, Except.toOption] using hmiss
  · rw [hst']
    decide +kernel
  · rw [hst']
    decide +kernel
  · intro p hp
    refine ⟨?_, ?_⟩
    · rw [hst']
      revert p
      decide +kernel
    · rw [hst']
      revert p
      decide +kernel

/-- **The next call is not always skipped.** Where the fingerprint is written to a device, nothing
is read back. -/
theorem not_always_skipped :
    ¬ ∀ (b : Builder Unit) (r : Request) (st st' : BuildState Unit) (outcome : DebaseOutcome),
      (b.debase r).run st = (.ok outcome, st') → outcome.cached = false →
        (∀ p ∈ (b.fingerprintInputs r).paths,
          st'.files.isSame b.cwd p (sidecar r).path = false) →
        (b.debase r).run st' = (.ok ⟨r.manifestPath, none⟩, st') := by
  intro h
  let first := (smallBuilder.debase smallRequest).run ⟨nullTree, (), .empty⟩
  have hmiss : first.1.toOption.map DebaseOutcome.cached = some false := by decide +kernel
  have hapart : ∀ p ∈ (smallBuilder.fingerprintInputs smallRequest).paths,
      first.2.files.isSame smallBuilder.cwd p (sidecar smallRequest).path = false := by
    decide +kernel
  have hagain : ((smallBuilder.debase smallRequest).run first.2).1.toOption.map
      DebaseOutcome.cached = some false := by decide +kernel
  rcases hrun : first with ⟨e | outcome, st'⟩
  · simp [hrun, Except.toOption] at hmiss
  · rw [hrun] at hmiss hapart hagain
    rw [h smallBuilder smallRequest _ st' outcome hrun (by simpa [Except.toOption] using hmiss)
      hapart] at hagain
    simp [Except.toOption, DebaseOutcome.cached] at hagain

/-! ### What is recorded -/

/-- If the file of the fingerprint still looks as a call has left it, then a call that is skipped
finds what the first one has found when its tool had ended, unless the two streams collide. -/
theorem eq_ended_of_cached {later later' : BuildState σ} {outcome' : DebaseOutcome}
    (hsave : (sidecar r).save left b.cwd ended.hash = .ok files)
    (hagree : files.Agrees b.cwd later.files b.cwd (sidecar r).path)
    (hrun : (b.debase r).run later = (.ok outcome', later')) (hcached : outcome'.cached = true) :
    ∃ now, (b.fingerprintInputs r).Reads later.files b.cwd now ∧
      (ended.Fits → now.Fits → ¬ ended.Collides now → now = ended) := by
  obtain ⟨hfresh, rfl⟩ := fresh_of_cached hrun hcached
  have hup : b.UpToDate r later'.files := by
    refine upToDate_iff.2 ⟨?_, hfresh⟩
    rcases hfound : later'.files.contains b.cwd r.targetPath with _ | _
    · simp [debase, Step.run_bind, hfound] at hrun
    · rfl
  obtain ⟨now, hnow, hspells⟩ := hup.fresh
  have hfile : files.isFile b.cwd (sidecar r).path = true := hagree.isFile_eq ▸ hup.kept
  have hended := (spells_of_save hsave (FileTree.not_isDevice_of_isFile hfile)).2.of_agrees hagree
  have hhash : ended.hash = now.hash :=
    Except.ok.inj ((Sidecar.load_eq_ok_iff.2 hended).symm.trans (Sidecar.load_eq_ok_iff.2 hspells))
  exact ⟨now, hnow, fun hold hfits hno => (Snapshot.eq_of_hash_eq hold hfits hno hhash).symm⟩

/-- The first tool is started on these bytes of the target. -/
def StartedOn (b : Builder σ) (r : Request) (files : FileTree) (content : Bytes) : Prop :=
  (b.debaseFiles r files).read b.cwd r.targetPath = .ok content

/-- **What is recorded is what the tool has left.** After a call that ends well and was not skipped
the next one is skipped, whatever has become of the target while the tool ran; and as long as nobody
else writes the fingerprint, a call is skipped only if the target is as it was when the tool had
ended. So the last tool run that was recorded had left the present target; it was started on it
exactly if the target had not changed when the tool had ended. -/
theorem recorded_as_left :
    (∀ (b : Builder σ) (r : Request) (st st' : BuildState σ) (outcome : DebaseOutcome),
      (b.debase r).run st = (.ok outcome, st') → outcome.cached = false →
      ∃ ended, (b.fingerprintInputs r).Reads (b.filesLeft r st) b.cwd ended ∧
        ((∀ p ∈ (b.fingerprintInputs r).paths,
            st'.files.isSame b.cwd p (sidecar r).path = false) →
          st'.files.isDevice b.cwd (sidecar r).path = false →
          (b.debase r).run st' = (.ok ⟨r.manifestPath, none⟩, st')) ∧
        ∀ (later later' : BuildState σ) (outcome' : DebaseOutcome),
          st'.files.Agrees b.cwd later.files b.cwd (sidecar r).path →
          (b.debase r).run later = (.ok outcome', later') → outcome'.cached = true →
          ∃ now, (b.fingerprintInputs r).Reads later.files b.cwd now ∧
            (ended.Fits → now.Fits → ¬ ended.Collides now → now.target = ended.target)) ∧
    ∀ (st st' : BuildState σ) (events : List (Event σ)) (b : Builder σ) (r : Request)
      (outcome : DebaseOutcome),
      (∀ l, (stateAfter st events).files.locate b.cwd (sidecar r).path = .ok l →
        Untouched l st events) →
      (b.debase r).run (stateAfter st events) = (.ok outcome, st') → outcome.cached = true →
      ∃ l b' r' earlier left old now, LastRefresh st l events b' r' earlier left old ∧
        (b.fingerprintInputs r).Reads (stateAfter st events).files b.cwd now ∧
        (old.Fits → now.Fits → ¬ old.Collides now →
          left.files.read b'.cwd r'.targetPath = .ok now.target ∧
          (b'.StartedOn r' (stateAfter st earlier).files now.target ↔
            (b'.debaseFiles r' (stateAfter st earlier).files).read b'.cwd r'.targetPath =
              left.files.read b'.cwd r'.targetPath)) := by
  constructor
  · intro b r st st' outcome hrun hmiss
    obtain ⟨ended, hreads, -, hsave⟩ := exists_ended hrun hmiss
    refine ⟨ended, hreads, ?_, ?_⟩
    · intro hapart hdevice
      exact (upToDate_of_refreshed hrun hmiss hapart hdevice).run_debase
    · intro later later' outcome' hagree hrun' hcached
      obtain ⟨now, hnow, heq⟩ := eq_ended_of_cached hsave hagree hrun' hcached
      exact ⟨now, hnow, fun hold hfits hno => by rw [heq hold hfits hno]⟩
  · intro st st' events b r outcome huntouched hrun hcached
    obtain ⟨l, -, b', r', earlier, left, old, now, hlast, hnow, hhash⟩ :=
      Untouched.lastRefresh_of_isUpToDate huntouched (fresh_of_cached hrun hcached).1
    refine ⟨l, b', r', earlier, left, old, now, hlast, hnow, fun hold hfits hno => ?_⟩
    obtain rfl := Snapshot.eq_of_hash_eq hold hfits hno hhash
    have hleft : left.files.read b'.cwd r'.targetPath = .ok old.target :=
      hlast.refreshes.2.reads.target
    exact ⟨hleft, by rw [StartedOn, hleft]⟩

/-- A first tool that writes the manifest and then another target. -/
def restlessBuilder : Builder Unit where
  runner.run i files tools :=
    match files.write [] ⟨"/w/lib/app.json"⟩ smallManifest with
    | .error fault => (.error fault, files, tools)
    | .ok written =>
      match written.write [] ⟨i.arguments.headD ""⟩ [5] with
      | .error fault => (.error fault, written, tools)
      | .ok changed => (.ok { code := some 0 }, changed, tools)
  toolchain := ⟨⟨"/debase"⟩, ⟨"/llc"⟩⟩
  lowering := {}
  cwd := []

/-- What is found when that tool has ended. -/
def restlessEnded : Snapshot := ⟨[1], [5], smallManifest, smallRequest.configStrings⟩

/-- That tool is started on one target and leaves another one, and its call ends well. -/
theorem run_restless :
    ((restlessBuilder.debase smallRequest).run smallState).1.toOption.map DebaseOutcome.cached =
        some false ∧
      restlessBuilder.StartedOn smallRequest smallState.files [2] ∧
      (restlessBuilder.fingerprintInputs smallRequest).Reads
        (restlessBuilder.filesLeft smallRequest smallState) restlessBuilder.cwd restlessEnded := by
  refine ⟨by decide +kernel, ok_of_toOption (by decide +kernel), ?_⟩
  constructor
  case config => rfl
  all_goals exact ok_of_toOption (by decide +kernel)

/-- Nobody but the builder writes the fingerprint of that tool. -/
theorem untouched_restless : ∀ l,
    (stateAfter smallState [.call restlessBuilder smallRequest]).files.locate restlessBuilder.cwd
      (sidecar smallRequest).path = .ok l →
    Untouched l smallState [.call restlessBuilder smallRequest] := by
  intro l hl
  have hplace : ((stateAfter smallState [.call restlessBuilder smallRequest]).files.locate
      restlessBuilder.cwd (sidecar smallRequest).path).toOption = some ["w", "app.bc.xxh3"] := by
    decide +kernel
  rw [hl] at hplace
  obtain rfl : l = ["w", "app.bc.xxh3"] := Option.some.inj hplace
  refine ⟨?_, Event.spares_call (by decide +kernel)⟩
  have hnone : smallState.files.entryAt? ["w", "app.bc.xxh3"] = none := by decide +kernel
  simp [Untouched, hnone]

/-- What that tool has left counts as done: the next call is skipped, and the last run that was
recorded has left the target that is there, which is not the one it was started on. -/
theorem recorded_as_left_restless :
    restlessBuilder.StartedOn smallRequest smallState.files [2] ∧
    ∃ outcome st', (restlessBuilder.debase smallRequest).run smallState = (.ok outcome, st') ∧
      outcome.cached = false ∧
      st'.files.read restlessBuilder.cwd smallRequest.targetPath = .ok [5] ∧
      (restlessBuilder.debase smallRequest).run st' =
        (.ok ⟨smallRequest.manifestPath, none⟩, st') ∧
      ∃ l b' r' earlier left old now,
        LastRefresh smallState l [.call restlessBuilder smallRequest] b' r' earlier left old ∧
        (restlessBuilder.fingerprintInputs smallRequest).Reads st'.files restlessBuilder.cwd now ∧
        (old.Fits → now.Fits → ¬ old.Collides now →
          left.files.read b'.cwd r'.targetPath = .ok now.target ∧
          (b'.StartedOn r' (stateAfter smallState earlier).files now.target ↔
            (b'.debaseFiles r' (stateAfter smallState earlier).files).read b'.cwd r'.targetPath =
              left.files.read b'.cwd r'.targetPath)) := by
  obtain ⟨hmiss, hstarted, -⟩ := run_restless
  have hapart : ∀ p ∈ (restlessBuilder.fingerprintInputs smallRequest).paths,
      ((restlessBuilder.debase smallRequest).run smallState).2.files.isSame restlessBuilder.cwd p
        (sidecar smallRequest).path = false := by decide +kernel
  have hdevice : ((restlessBuilder.debase smallRequest).run smallState).2.files.isDevice
      restlessBuilder.cwd (sidecar smallRequest).path = false := by decide +kernel
  have hread : ((restlessBuilder.debase smallRequest).run smallState).2.files.read
      restlessBuilder.cwd smallRequest.targetPath = .ok [5] :=
    ok_of_toOption (by decide +kernel)
  have hafter : stateAfter smallState [.call restlessBuilder smallRequest] =
      ((restlessBuilder.debase smallRequest).run smallState).2 := rfl
  have huntouched := untouched_restless
  rcases hrun : (restlessBuilder.debase smallRequest).run smallState with ⟨e | outcome, st'⟩
  · simp [hrun, Except.toOption] at hmiss
  rw [hrun] at hmiss hapart hdevice hread
  replace hafter : stateAfter smallState [.call restlessBuilder smallRequest] = st' := by
    rw [hafter, hrun]
  replace hmiss : outcome.cached = false := by simpa [Except.toOption] using hmiss
  obtain ⟨-, -, hagain, -⟩ := recorded_as_left.1 restlessBuilder smallRequest smallState st'
    outcome hrun hmiss
  have hlast := recorded_as_left.2 smallState st' [.call restlessBuilder smallRequest]
    restlessBuilder smallRequest _ huntouched (by rw [hafter, hagain hapart hdevice]) rfl
  rw [hafter] at hlast
  exact ⟨hstarted, outcome, st', rfl, hmiss, hread, hagain hapart hdevice, hlast⟩

/-- **What is recorded is not what the tool was started on.** The next call may be skipped although
the target has changed while the tool ran, and the streams of the two targets do not collide. -/
theorem not_recorded_as_found :
    ¬ ∀ (b : Builder Unit) (r : Request) (st st' st'' : BuildState Unit)
      (outcome outcome' : DebaseOutcome) (before : Bytes) (ended : Snapshot),
      (b.debase r).run st = (.ok outcome, st') → outcome.cached = false →
      b.StartedOn r st.files before →
      (b.fingerprintInputs r).Reads (b.filesLeft r st) b.cwd ended →
      before ≠ ended.target → ¬ Snapshot.Collides { ended with target := before } ended →
      (b.debase r).run st' = (.ok outcome', st'') → outcome'.cached = false := by
  intro h
  obtain ⟨hmiss, hstarted, hended⟩ := run_restless
  let first := (restlessBuilder.debase smallRequest).run smallState
  have hagain : ((restlessBuilder.debase smallRequest).run first.2).1.toOption.map
      DebaseOutcome.cached = some true := by decide +kernel
  have hhash : Snapshot.hash { restlessEnded with target := [2] } ≠ restlessEnded.hash := by
    decide +kernel
  rcases hrun : first with ⟨e | outcome, st'⟩
  · simp [first, hrun, Except.toOption] at hmiss
  rw [hrun] at hagain
  rcases hrun' : (restlessBuilder.debase smallRequest).run st' with ⟨e | outcome', st''⟩
  · simp [hrun', Except.toOption] at hagain
  have hcalled := h restlessBuilder smallRequest smallState st' st'' outcome outcome' [2]
    restlessEnded hrun (by simpa [first, hrun, Except.toOption] using hmiss) hstarted hended
    (by decide) (fun hcollides => hhash hcollides.2) hrun'
  simp [hrun', Except.toOption, hcalled] at hagain

end Builder

end ModuleBuild
