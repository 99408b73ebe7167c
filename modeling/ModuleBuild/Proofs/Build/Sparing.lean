import ModuleBuild.Proofs.Build.Beside
import ModuleBuild.Proofs.Build.Watching

/-!
# Publishing spares the target

If no name is wished for, then the response file lies beside the target and has its name, with an
extension of its own. It never has the path of the fingerprint. A build that ends well leaves the
target as it was if its tools do, and if neither the response file nor the fingerprint is written
into the target; and what is published does not keep the next call of the first tool from being
skipped.

## Targets that are response files

The name of the response file is made from that of the target, and nobody asks whether it is another
one. A target that has the extension of a response file and lies right in the output directory is
itself the response file, and the build writes the list of its objects into it
(`Builder.not_always_spared`). Every other target has a path of its own. It can still be written
into, but that takes a link in the place of one of the files, or two dots on the way to a target
that has the extension of a response file.

## Main definitions

* `Builder.Sparing` — what a build that ended well has left of its target and of its first step

## Main results

* `Builder.spares_target` — what is published if no name is wished for, and what it leaves alone
-/

namespace ModuleBuild

namespace Builder

variable {σ : Type} {r : Request}

/-- What a build that ended well has left of its target and of its first step, which ended in the
state `st₁` and was followed by the calls `later`. -/
structure Sparing (b : Builder σ) (r : Request) (st : BuildState σ) (outcome : BuildOutcome)
    (st' st₁ : BuildState σ) (later : List Footprint) : Prop where
  /-- The first step has ended well. -/
  first_eq : (b.debaseStep r).run st = (.ok outcome.debase, st₁)
  /-- These are the calls after it. -/
  calls_eq : (b.watched.build r).footprints st =
    (b.watched.debaseStep r).footprints st ++ later
  /-- The target is as it was if every call has kept it, and if neither the fingerprint nor the
  response file was written into it. -/
  target_eq : ∀ {content}, st.files.read b.cwd r.targetPath = .ok content →
    (∀ call ∈ (b.watched.build r).footprints st, call.Keeps b.cwd r.targetPath) →
    (outcome.debase.cached = false →
      st₁.files.isSame b.cwd r.targetPath (sidecar r).path = false) →
    st'.files.isSame b.cwd r.targetPath r.listing = false →
    st'.files.read b.cwd r.targetPath = .ok content
  /-- The next call of the first tool is skipped if the fingerprint was put into a file of its own,
  if the calls after the first step have kept what it hangs on, and if the response file was not
  written into any of that. -/
  skipped : (outcome.debase.cached = false → b.KeptApart r st₁.files) →
    (∀ p ∈ (sidecar r).path :: (b.fingerprintInputs r).paths,
      (∀ call ∈ later, call.Keeps b.cwd p) ∧ st'.files.isSame b.cwd p r.listing = false) →
    (b.debase r).run st' = (.ok ⟨r.manifestPath, none⟩, st')

/-- A build that ended well with the response file beside its target. -/
theorem exists_sparing {b : Builder σ} {st st' : BuildState σ} {outcome : BuildOutcome}
    (hmode : r.publish = .response r.listing) (h : (b.build r).run st = (.ok outcome, st')) :
    ∃ st₁ later, b.Sparing r st outcome st' st₁ later := by
  obtain ⟨ended, hbuild, rfl, hlog⟩ := (b.forgets_watched r).run_watched h
  obtain ⟨mid, last, hfirst, hsecond, hthird⟩ := steps_of_build hbuild
  obtain ⟨calls, hcalls, hdebase⟩ := leaves_debaseStep hfirst
  obtain ⟨later, hlower⟩ := leaves_lowerStep hsecond
  have hafter : ∀ p, ended.files.isSame b.cwd p r.listing = false →
      Leaves b.cwd p later mid ended := by
    intro p hapart
    have hrest := (hlower p).trans (leaves_publishStep hmode hthird hapart)
    rwa [List.append_nil] at hrest
  have hfirstLog : (b.watched.debaseStep r).footprints st = calls := by
    rw [Step.footprints, hfirst, hcalls]
    rfl
  have hbuildLog : (b.watched.build r).footprints st = calls ++ later := by
    rw [← hlog, (written_of_publishStep hmode hthird).2, (hlower r.listing).log_eq, hcalls]
    rfl
  have hforget : (b.debaseStep r).run st = (.ok outcome.debase, mid.forget) := by
    have hshown := b.forgets_watched_debaseStep r st.watched
    rw [hfirst] at hshown
    exact hshown
  refine ⟨mid.forget, later, ?_⟩
  constructor
  case first_eq => exact hforget
  case calls_eq => rw [hbuildLog, hfirstLog]
  case target_eq =>
    intro content hread hkeeps hsidecar hlisting
    rw [hbuildLog] at hkeeps
    exact (((hdebase _ hsidecar).trans (hafter _ hlisting)).keeps hkeeps).read hread
  case skipped =>
    intro hapart hkeeps
    have hfresh : b.UpToDate r mid.files := upToDate_of_debaseStep hforget hapart
    have hstill : b.UpToDate r ended.files := hfresh.of_keeps fun p hp =>
      (hafter p (hkeeps p hp).2).keeps (hkeeps p hp).1
    exact UpToDate.run_debase hstill

/-- **Publishing spares the target.** If no name is wished for, then the response file has a path of
its own, unless the target has the name of a response file and lies right in the output directory;
and a build that ends well leaves the target and its first step alone as far as its tools do. -/
theorem spares_target {cwd : Path} {o : RequestOptions} (habs : cwd.isAbsolute = true)
    (h : Request.ofOptions cwd o = .ok r) (harchive : o.archive = none)
    (hresponse : o.response.getD "" = "") :
    r.Beside ∧ ∀ (b : Builder σ) (st st' : BuildState σ) (outcome : BuildOutcome),
      (b.build r).run st = (.ok outcome, st') →
        ∃ st₁ later, b.Sparing r st outcome st' st₁ later := by
  have hbeside := Request.beside habs h harchive hresponse
  exact ⟨hbeside, fun b st st' outcome hrun => exists_sparing hbeside.publish_eq hrun⟩

/-- What the small build leaves of its target, and of its first step. -/
theorem spares_target_small :
    let r := listingRequest ⟨"/w/app.rsp"⟩
    r.Beside ∧ ∃ outcome st', (smallBuilder.build r).run ⟨smallTree, (), .empty⟩ =
        (.ok outcome, st') ∧
      st'.files.read [] r.targetPath = .ok [2] ∧
      (smallBuilder.debase r).run st' = (.ok ⟨r.manifestPath, none⟩, st') := by
  intro r
  let o : RequestOptions := { target := "app.bc", manifestName := "app.json" }
  let st : BuildState Unit := ⟨smallTree, (), .empty⟩
  let built := (smallBuilder.build r).run st
  let first := (smallBuilder.debaseStep r).run st
  let calls := (smallBuilder.watched.build r).footprints st
  have h : Request.ofOptions ⟨"/w"⟩ o = .ok r := by decide +kernel
  have hended : built.1.toOption.isSome = true := by decide +kernel
  have hread : smallTree.read [] r.targetPath = .ok [2] := by decide +kernel
  have hlength : ((smallBuilder.watched.debaseStep r).footprints st).length = 1 := by
    decide +kernel
  -- every call keeps the target, and those after the first keep what the first step hangs on
  have htarget : ∀ call ∈ calls, call.agreesAt [] r.targetPath = true := by decide +kernel
  have hinputs : ∀ p ∈ (sidecar r).path :: (smallBuilder.fingerprintInputs r).paths,
      (∀ call ∈ calls.drop 1, call.agreesAt [] p = true) ∧
        built.2.files.isSame [] p r.listing = false := by decide +kernel
  have hapart : (∀ p ∈ (smallBuilder.fingerprintInputs r).paths,
      first.2.files.isSame [] p (sidecar r).path = false) ∧
      first.2.files.isDevice [] (sidecar r).path = false := by decide +kernel
  obtain ⟨outcome, houtcome⟩ : ∃ outcome, built.1 = .ok outcome := by
    rcases hbuilt : built.1 with e | outcome
    · simp [hbuilt, Except.toOption] at hended
    · exact ⟨outcome, rfl⟩
  have hrun : (smallBuilder.build r).run st = (.ok outcome, built.2) := Prod.ext houtcome rfl
  obtain ⟨hbeside, hspares⟩ := spares_target (σ := Unit) (by decide) h rfl rfl
  obtain ⟨st₁, later, hspared⟩ := hspares smallBuilder st built.2 outcome hrun
  obtain rfl : first.2 = st₁ := congrArg Prod.snd hspared.first_eq
  obtain rfl : calls.drop 1 = later := by
    rw [show calls = _ from hspared.calls_eq, List.drop_left' hlength]
  refine ⟨hbeside, outcome, built.2, hrun, hspared.target_eq ?_ ?_ ?_ ?_, hspared.skipped ?_ ?_⟩
  · exact hread
  · exact fun call hcall => Footprint.keeps_of_agreesAt (htarget call hcall)
  · exact fun _ => hapart.1 r.targetPath (by decide +kernel)
  · exact (hinputs r.targetPath (by decide +kernel)).2
  · exact fun _ => ⟨hapart.1, hapart.2⟩
  · intro p hp
    obtain ⟨hcalls, hlisting⟩ := hinputs p hp
    exact ⟨fun call hcall => Footprint.keeps_of_agreesAt (hcalls call hcall), hlisting⟩

/-- A target with the name of a response file, and the manifest of two units. -/
def listingTree : FileTree :=
  { entries := [("debase", .file [1] true), ("w", .directory [("app.rsp", .file [2] false),
      ("lib", .directory [("app.json", .file smallManifest false)])])] }

/-- **The target is not always spared.** A target may have the path of the response file, and then a
build whose tools change nothing changes the target. -/
theorem not_always_spared :
    (¬ ∀ (cwd : Path) (o : RequestOptions) (r : Request), cwd.isAbsolute = true →
      Request.ofOptions cwd o = .ok r → o.archive = none → o.response.getD "" = "" →
        r.listing ≠ r.targetPath) ∧
    ¬ ∀ (cwd : Path) (o : RequestOptions) (r : Request), cwd.isAbsolute = true →
      Request.ofOptions cwd o = .ok r → o.archive = none → o.response.getD "" = "" →
        ∀ (b : Builder Unit) (st st' : BuildState Unit) (outcome : BuildOutcome) (content : Bytes),
          (∀ i files tools, (b.runner.run i files tools).2.1 = files) →
          (b.build r).run st = (.ok outcome, st') →
          st.files.read b.cwd r.targetPath = .ok content →
            st'.files.read b.cwd r.targetPath = .ok content := by
  let o : RequestOptions := { target := "app.rsp", manifestName := "app.json" }
  let r : Request :=
    { smallRequest with target := ⟨"app.rsp"⟩, publish := .response ⟨"/w/app.rsp"⟩ }
  have h : Request.ofOptions ⟨"/w"⟩ o = .ok r := by decide +kernel
  constructor
  · intro hall
    exact hall ⟨"/w"⟩ o r (by decide) h rfl rfl (by decide +kernel)
  · intro hall
    let built := (pairedBuilder.build r).run ⟨listingTree, (), .empty⟩
    have hended : built.1.toOption.isSome = true := by decide +kernel
    have hread : listingTree.read [] r.targetPath = .ok [2] := by decide +kernel
    have hlost : built.2.files.read [] r.targetPath ≠ .ok [2] := by decide +kernel
    rcases hbuilt : built.1 with e | outcome
    · simp [hbuilt, Except.toOption] at hended
    · have hrun : (pairedBuilder.build r).run ⟨listingTree, (), .empty⟩ = (.ok outcome, built.2) :=
        Prod.ext hbuilt rfl
      exact hlost (hall ⟨"/w"⟩ o r (by decide) h rfl rfl pairedBuilder _ _ outcome [2]
        (fun _ _ _ => rfl) hrun hread)

end Builder

end ModuleBuild
