import Mathlib.Data.List.Nodup
import ModuleBuild.Proofs.Build.Calls
import ModuleBuild.Proofs.Build.Contract
import ModuleBuild.Proofs.Build.Objects

/-!
# What a build lists

A build that ends well has called the lowering tool once for each unit of the manifest, whatever the
number of workers and the order of their steps: as many objects are reported as there are units,
each of them was found in the slot of its own unit, and so each unit was tried. The objects are
reported in the order of the manifest, and published in the order of the report. An object is seen
from the output directory; seen from there it is the path that the tool was told to write to.

## Response files that hold something else

A response file may be asked for at a path that leads to a device, such as `/dev/null`. Then the
build ends well too, and nothing can be read there afterwards. And an object whose path spells no
text is listed as it is shown, with a replacement for the bytes that spell nothing. Only the path of
the output directory brings in such bytes, since the names in a manifest are texts
(`Builder.not_always_listed` has a case of either kind).

## Main definitions

* `Builder.LoweredEach` — each unit was lowered by a call of its own
* `Builder.PublishesAll` — what is published of some objects
* `Builder.Listing` — the calls of a build that ended well, and what it lists

## Main results

* `Batch.Recorded.mem_tried_iff` — each unit was tried if each object was found
* `Builder.exists_calls_of_succeeded` — the calls of a batch that was lowered
* `Builder.lists_in_order` — the calls of a build that ended well, and what it lists
-/

namespace ModuleBuild

/-- Numbers of entries, none twice and none missing, give the entries in some order. -/
theorem perm_filterMap_getElem? {α : Type} {l : List α} {ns : List Nat} (hnodup : ns.Nodup)
    (hall : ∀ n, n ∈ ns ↔ n < l.length) : (ns.filterMap fun n => l[n]?).Perm l := by
  have hperm : ns.Perm (List.range l.length) :=
    (List.perm_ext_iff_of_nodup hnodup List.nodup_range).2 fun n => by rw [hall, List.mem_range]
  have hrange : (List.range l.length).filterMap (fun n => l[n]?) = l := by
    rw [Batch.filterMap_range_getElem?, List.take_length]
  have hread := hperm.filterMap fun n => l[n]?
  rwa [hrange] at hread

/-! ### Batches of which every object is found -/

namespace Batch.Recorded

variable {σ : Type} {batch : Batch σ} {st st' : BuildState σ} {found : List UnitOutcome}
  {tried : List (Nat × UnitOutcome)}

/-- If as many objects are found as there are units, then there is one in the slot of each unit, and
so it is that of an attempt at the unit. -/
theorem exists_tried (h : batch.Recorded st found tried st')
    (hfull : batch.length ≤ (found.filterMap UnitOutcome.object?).length) {n : Nat}
    (hn : n < batch.length) : ∃ object, (n, .lowered object) ∈ tried := by
  obtain ⟨slots, hlength, rfl, hslots⟩ := h.found_eq
  rw [List.filterMap_filterMap] at hfull
  have hle := List.length_filterMap_le
    (fun slot : Option UnitOutcome => (id slot).bind UnitOutcome.object?) slots
  have hall := List.filterMap_length_eq_length.1
    (Nat.le_antisymm hle (Nat.le_trans hlength hfull))
  have hlt : n < slots.length := Nat.lt_of_lt_of_le hn (Nat.le_trans hfull hle)
  have hsome := hall slots[n] (List.getElem_mem hlt)
  rcases hslot : slots[n] with _ | outcome
  · simp [hslot] at hsome
  · cases outcome with
    | lowered object =>
      have hget : slots[n]? = some (some (.lowered object)) := by
        rw [List.getElem?_eq_getElem hlt, hslot]
      rcases hslots n _ hget with hskipped | hmem
      · simp at hskipped
      · exact ⟨object, hmem⟩
    | failed failure => simp [hslot, UnitOutcome.object?] at hsome
    | skipped => simp [hslot, UnitOutcome.object?] at hsome

/-- **Each unit was tried** if each object was found. -/
theorem mem_tried_iff (h : batch.Recorded st found tried st')
    (hfull : batch.length ≤ (found.filterMap UnitOutcome.object?).length) (n : Nat) :
    n ∈ tried.map Prod.fst ↔ n < batch.length := by
  constructor
  · intro hmem
    obtain ⟨e, he, rfl⟩ := List.mem_map.1 hmem
    obtain ⟨attempt, -, -, hattempt, -⟩ := h.made e he
    exact (List.getElem?_eq_some_iff.1 hattempt).1
  · intro hn
    obtain ⟨object, hmem⟩ := h.exists_tried hfull hn
    exact List.mem_map_of_mem hmem

/-- And no attempt failed: the attempt that found the object of a unit is the only one at it. -/
theorem exists_object_of_mem (h : batch.Recorded st found tried st')
    (hfull : batch.length ≤ (found.filterMap UnitOutcome.object?).length)
    {e : Nat × UnitOutcome} (he : e ∈ tried) : ∃ object, e.2 = .lowered object := by
  have hn := (h.mem_tried_iff hfull e.1).1 (List.mem_map_of_mem he)
  obtain ⟨object, hmem⟩ := h.exists_tried hfull hn
  have hsame : e = (e.1, .lowered object) :=
    List.inj_on_of_nodup_map h.nodup he hmem rfl
  exact ⟨object, congrArg Prod.snd hsame⟩

end Batch.Recorded

namespace Builder

variable {σ : Type} {b : Builder σ} {r : Request} {units : List Path} {report : LoweringReport}
  {st st' : BuildState (List Call × σ)}

/-- Each unit was lowered by a call of its own, in whatever order. -/
def LoweredEach (b : Builder σ) (r : Request) (units : List Path) (calls : List Call) : Prop :=
  (calls.map Prod.fst).Perm (units.map (b.lowerInvocation r)) ∧ ∀ call ∈ calls, call.Succeeded

/-- **The calls of a batch that was lowered.** -/
theorem exists_calls_of_succeeded
    (hrun : (b.logging.lowerUnits r units).run st = (.ok report, st'))
    (hs : report.succeeded = true) :
    ∃ calls, st'.tools.1 = st.tools.1 ++ calls ∧ b.LoweredEach r units calls ∧
      report.objects = units.map Request.objectFor := by
  rcases hdir : (st.files.createDirectories b.cwd r.optDir).1 with fault | ⟨⟩
  · rw [run_lowerUnits_of_error units hdir] at hrun
    simp at hrun
  obtain ⟨found, tried, attempts, st₁, hrecorded, hlower, hunits, houtcomes, hmakes⟩ :=
    exists_recorded b r units st hdir
  obtain ⟨rfl, rfl⟩ := by simpa using hlower.symm.trans hrun
  obtain ⟨hsub, hlength⟩ := objects_collect units.length found
  have hfull : (units.map (b.logging.lowerOne r)).length ≤
      (found.filterMap UnitOutcome.object?).length := by
    rw [List.length_map, ← hlength hs]
    exact hsub.length_le
  refine ⟨attempts.map Attempt.call, hmakes.log_eq, ⟨?_, ?_⟩, ?_⟩
  · have hread : (attempts.map Attempt.unit).Perm units := by
      have hperm := perm_filterMap_getElem? (l := units) hrecorded.nodup fun n => by
        rw [hrecorded.mem_tried_iff hfull, List.length_map]
      rw [List.filterMap_map] at hperm
      rw [hunits]
      exact hperm
    have hmap : (attempts.map Attempt.call).map Prod.fst =
        (attempts.map Attempt.unit).map (b.lowerInvocation r) := by
      rw [List.map_map, List.map_map]
      exact List.map_congr_left hmakes.call_eq
    rw [hmap]
    exact hread.map _
  · rw [List.forall_mem_map]
    intro a ha
    have hmem : a.outcome ∈ tried.map Prod.snd := houtcomes ▸ List.mem_map_of_mem ha
    obtain ⟨e, he, houtcome⟩ := List.mem_map.1 hmem
    obtain ⟨object, hobject⟩ := hrecorded.exists_object_of_mem hfull he
    rw [← Attempt.hasFailed_eq_false_iff, ← Attempt.isFailed_outcome, ← houtcome, hobject]
    rfl
  · have hobjects := hsub.trans (objects_of_recorded hrecorded)
    exact hobjects.eq_of_length (by rw [hlength hs, List.length_map])

/-- The second step, if it ends well. -/
theorem exists_calls_of_lowerStep {path : Path}
    (h : (b.logging.lowerStep r path).run st = (.ok report, st')) :
    ∃ manifest calls, Manifest.load st.files b.cwd path = .ok manifest ∧
      st'.tools.1 = st.tools.1 ++ calls ∧ b.LoweredEach r (manifest.units r.outputDir) calls ∧
      report.objects = (manifest.units r.outputDir).map Request.objectFor := by
  rw [run_lowerStep] at h
  split at h
  · simp at h
  rename_i manifest hload
  rcases hrun : (b.logging.lowerUnits r (manifest.units r.outputDir)).run st with
    ⟨e | report', st''⟩
  · simp [hrun, Except.bind] at h
  · rw [hrun] at h
    obtain ⟨hjudged, rfl⟩ := Prod.mk.inj h
    obtain ⟨hs, rfl⟩ := judged_eq_ok.1 hjudged
    obtain ⟨calls, hlog, hlowered, hobjects⟩ := exists_calls_of_succeeded hrun hs
    exact ⟨manifest, calls, hload, hlog, hlowered, hobjects⟩

/-! ### Arguments -/

/-- A flag with another letter than that of the output flag. -/
theorem output_ne_append (flag : String) {c : Char} (h : flag.toList[1]? = some c) (hc : c ≠ 'o')
    (rest : String) : "-o" ≠ flag ++ rest := by
  intro heq
  have hlength : 1 < flag.toList.length := (List.getElem?_eq_some_iff.1 h).1
  have hletter := congrArg (fun s : String => s.toList[1]?) heq
  simp only [String.toList_append, List.getElem?_append_left hlength, h] at hletter
  exact hc (Option.some.inj hletter).symm

/-- So is a flag with a text of characters after it. -/
theorem output_ne_ofText (flag : String) {c : Char} (hascii : Octets.IsAscii flag)
    (h : flag.toList[1]? = some c) (hc : c ≠ 'o') (rest : String) :
    "-o" ≠ Octets.ofText (flag ++ rest) := by
  rw [Octets.ofText_append, Octets.ofText_of_ascii hascii]
  exact output_ne_append flag h hc _

/-- The lowering tool is told once where to write to, and that is the object of its unit, seen from
the output directory. The unit is its last argument. -/
theorem arguments_lowerInvocation (b : Builder σ) (r : Request) (unit : Path) :
    ∃ flags, "-o" ∉ flags ∧ (b.lowerInvocation r unit).arguments =
      flags ++ ["-o", (r.outputDir.join (Request.objectFor unit)).text, unit.text] := by
  refine ⟨_, ?_, List.append_cons _ _ _⟩
  have hlevel := output_ne_append "-O=" rfl (by decide)
    (r.profile.flags r.framePointer).level.repr
  have hpointer := output_ne_append "--frame-pointer=" rfl (by decide)
    (r.profile.flags r.framePointer).framePointer.name
  have hregalloc : ∀ name : String, "-o" ≠ Octets.ofText s!"--regalloc={name}" :=
    output_ne_ofText "--regalloc=" (by decide) rfl (by decide)
  rcases b.lowering.regalloc with _ | name
  · simpa [LoweringFlags.arguments] using ⟨hlevel, hpointer⟩
  · simpa [LoweringFlags.arguments] using ⟨hlevel, hpointer, hregalloc name⟩

/-- The call for an archive is made in the output directory and names it once, and the paths of the
objects come after it. -/
theorem arguments_archiveInvocation (b : Builder σ) (r : Request) (name : Option String)
    (objects : List Path) : ∃ flags, "-o" ∉ flags ∧
      (b.archiveInvocation r name objects).arguments =
        flags ++ ["-o", r.outputDir.text] ++ objects.map Path.text := by
  refine ⟨(b.archiveInvocation r name objects).arguments.take 2, ?_, rfl⟩
  have harchive : ∀ name : String, "-o" ≠ Octets.ofText s!"--archive-only={name}" :=
    output_ne_ofText "--archive-only=" (by decide) rfl (by decide)
  rcases name with _ | name
  · simp [archiveInvocation]
  · simpa [archiveInvocation] using harchive name

/-! ### Objects that spell texts -/

theorem isText_objectFor {unit : Path} (h : unit.IsText) : (Request.objectFor unit).IsText :=
  Path.IsText.join (Octets.isText_of_ascii (by decide))
    ((h.nameOr h).append (Octets.isText_of_ascii (by decide)))

/-- A manifest is a text, so its entries are. -/
theorem isText_of_load {files : FileTree} {cwd : Location} {path : Path} {manifest : Manifest}
    (h : Manifest.load files cwd path = .ok manifest) : ∀ p ∈ manifest.files, p.IsText := by
  unfold Manifest.load Manifest.parse at h
  repeat' split at h
  all_goals simp only [Except.ok.injEq, reduceCtorEq] at h
  subst h
  rw [List.forall_mem_map]
  exact fun name _ => Octets.isText_ofText name

/-- The objects of the units of a manifest spell texts if the path of the output directory does. -/
theorem isText_objects {files : FileTree} {cwd : Location} {path base : Path} {manifest : Manifest}
    (h : Manifest.load files cwd path = .ok manifest) (hbase : base.IsText) :
    ∀ object ∈ (manifest.units base).map Request.objectFor, object.IsText := by
  rw [List.forall_mem_map, Manifest.units, List.forall_mem_map]
  exact fun p hp => isText_objectFor (hbase.join (isText_of_load h p hp))

/-- What is shown of objects that spell texts are their own bytes. -/
theorem encode_responseText {objects : List Path} (h : ∀ object ∈ objects, object.IsText) :
    Utf8.encode (responseText objects) =
      Octets.toBytes (String.intercalate " " (objects.map Path.text)) := by
  have htexts : (objects.map Path.shown).map Octets.ofText = objects.map Path.text := by
    rw [List.map_map]
    exact List.map_congr_left fun object hmem => (h object hmem).ofText_toText
  have hblank : Octets.ofText " " = " " := Octets.ofText_of_ascii (by decide)
  rw [← htexts, ← hblank, ← Octets.ofText_intercalate, Octets.ofText, Octets.toBytes_ofBytes]
  rfl

/-! ### The whole build -/

/-- What a build that ended well has published of some objects: a response file that holds what is
shown of them with single blanks between, and so their paths if these spell texts, unless it is a
device; or an archive, by one call in the output directory. -/
def PublishesAll (b : Builder σ) (r : Request) (objects : List Path) (published : Published)
    (archiving : List Call) (files : FileTree) : Prop :=
  match r.publish with
  | .response path => published = .response path ∧ archiving = [] ∧
    (files.isDevice b.cwd path = false →
      files.read b.cwd path =
        .ok (Utf8.encode (String.intercalate " " (objects.map Path.shown))) ∧
      ((∀ object ∈ objects, object.IsText) → files.read b.cwd path =
        .ok (Octets.toBytes (String.intercalate " " (objects.map Path.text)))))
  | .archive name => ∃ output flags,
    published = .archive name output.stderr ∧
    archiving = [(b.archiveInvocation r name objects, .ok output)] ∧ output.code = some 0 ∧
    (b.archiveInvocation r name objects).cwd = r.outputDir ∧ "-o" ∉ flags ∧
    (b.archiveInvocation r name objects).arguments =
      flags ++ ["-o", r.outputDir.text] ++ objects.map Path.text

/-- A response file that could be written. -/
theorem read_of_write_response {files files' : FileTree} {cwd : Location} {path : Path}
    {content : Bytes} (h : files.write cwd path content = .ok files')
    (hfile : files'.isDevice cwd path = false) : files'.read cwd path = .ok content := by
  rcases hd : files.isDevice cwd path with _ | _
  · exact FileTree.read_of_write h hd
  · rw [FileTree.eq_of_write_of_isDevice h hd, hd] at hfile
    exact Bool.noConfusion hfile

/-- The third step, if it ends well. -/
theorem publishesAll_of_publishStep {published : Published}
    (h : (b.logging.publishStep r report).run st = (.ok published, st')) :
    ∃ archiving, st'.tools.1 = st.tools.1 ++ archiving ∧
      b.PublishesAll r report.objects published archiving st'.files := by
  obtain ⟨sink, hrun⟩ := run_publishStep b.logging r report st
  rw [hrun] at h
  unfold PublishesAll
  rcases hmode : r.publish with path | name
  · rw [run_publishObjects_response b.logging hmode] at h
    split at h
    · rename_i files hwrite
      obtain ⟨rfl, rfl⟩ := by simpa using h
      refine ⟨[], (List.append_nil _).symm, rfl, rfl, fun hfile => ?_⟩
      have hread := read_of_write_response hwrite hfile
      exact ⟨hread, fun htext => encode_responseText htext ▸ hread⟩
    · simp at h
  · rw [run_publishObjects_archive b.logging hmode] at h
    obtain ⟨hchecked, rfl⟩ := Prod.mk.inj h
    obtain ⟨output, hanswer, hcode, rfl⟩ := checked_map_eq_ok.1 hchecked
    obtain ⟨flags, hflags, harguments⟩ := arguments_archiveInvocation b r name report.objects
    refine ⟨[(b.archiveInvocation r name report.objects, .ok output)], ?_, output, flags, rfl, rfl,
      hcode, rfl, hflags, harguments⟩
    rw [← hanswer]
    rfl

/-- The calls of a build that ended well, and what it lists. -/
structure Listing (b : Builder σ) (r : Request) (st : BuildState (List Call × σ))
    (outcome : BuildOutcome) (st' : BuildState (List Call × σ)) (units : List Path)
    (debasing lowering archiving : List Call) : Prop where
  /-- The builder that keeps no log does the same. -/
  run_forget : (b.build r).run st.forget = (.ok outcome, st'.forget)
  /-- The units are those of the manifest that the first step has left. -/
  listed : ∃ st₁, b.Listed r st units st₁
  /-- These are all calls, in order. -/
  log_eq : st'.tools.1 = st.tools.1 ++ (debasing ++ lowering ++ archiving)
  /-- The first tool is called once or not at all. -/
  debasing_eq : debasing = [] ∨ ∃ answer, debasing = [(b.debaseInvocation r, answer)]
  /-- Each unit was lowered by a call of its own. -/
  lowered : b.LoweredEach r units lowering
  /-- There is one object for each unit, in the order of the units. -/
  objects_eq : outcome.lower.objects = units.map Request.objectFor
  /-- They spell texts if the path of the output directory does. -/
  spelled : r.outputDir.IsText → ∀ object ∈ outcome.lower.objects, object.IsText
  /-- An object, seen from the output directory, is where the call for its unit is told to write
  to. -/
  arguments : ∀ (n : Nat) (unit : Path), units[n]? = some unit → ∃ object flags,
    outcome.lower.objects[n]? = some object ∧ "-o" ∉ flags ∧
    (b.lowerInvocation r unit).arguments =
      flags ++ ["-o", (r.outputDir.join object).text, unit.text]
  /-- The objects of the report are published, in the order of the report. -/
  published : b.PublishesAll r outcome.lower.objects outcome.published archiving st'.files

/-- **What a build lists.** A build that ends well has called the lowering tool once for each unit
of the manifest, whatever the number of workers and the order of their steps, and it lists their
objects in the order of the manifest. -/
theorem lists_in_order {outcome : BuildOutcome}
    (h : (b.logging.build r).run st = (.ok outcome, st')) :
    ∃ units debasing lowering archiving,
      b.Listing r st outcome st' units debasing lowering archiving := by
  obtain ⟨debasing, hdebase, hdebasing⟩ := log_debaseStep b r st
  rcases hfirst : (b.logging.debaseStep r).run st with ⟨e | debase, st₁⟩
  · simp [run_build, hfirst] at h
  rcases hsecond : (b.logging.lowerStep r debase.manifestPath).run st₁ with ⟨e | report, st₂⟩
  · simp [run_build, hfirst, hsecond] at h
  rcases hthird : (b.logging.publishStep r report).run st₂ with ⟨e | published, st₃⟩
  · simp [run_build, hfirst, hsecond, hthird] at h
  obtain ⟨houtcome, rfl⟩ : _ ∧ st₃ = st' := by
    simpa [run_build, hfirst, hsecond, hthird] using h
  obtain ⟨manifest, lowering, hload, hlower, hlowered, hobjects⟩ :=
    exists_calls_of_lowerStep hsecond
  obtain ⟨archiving, harchive, hpublished⟩ := publishesAll_of_publishStep hthird
  subst houtcome
  refine ⟨manifest.units r.outputDir, debasing, lowering, archiving, ?_⟩
  constructor
  case run_forget =>
    have hforget : (b.logging.build r).Forgets (b.build r) := forgets_build
    rw [hforget st, h]
  case listed => exact ⟨st₁, debase, manifest, hfirst, hload, rfl⟩
  case log_eq =>
    rw [hfirst] at hdebase
    rw [harchive, hlower, hdebase, List.append_assoc, List.append_assoc, List.append_assoc]
  case debasing_eq => exact hdebasing.calls_eq
  case lowered => exact hlowered
  case objects_eq => exact hobjects
  case spelled => exact fun hbase => hobjects ▸ isText_objects hload hbase
  case arguments =>
    intro n unit hunit
    obtain ⟨flags, hflags, harguments⟩ := arguments_lowerInvocation b r unit
    refine ⟨Request.objectFor unit, flags, ?_, hflags, harguments⟩
    rw [hobjects, List.getElem?_map, hunit, Option.map_some]
  case published => exact hpublished

/-- The small request, for a response file in place of an archive. -/
def listingRequest (path : Path) : Request := { smallRequest with publish := .response path }

/-- The tools of the small build, and two workers that take turns. -/
def sharingBuilder : Builder Unit := { smallBuilder with lowering := pairedBuilder.lowering }

/-- Two workers lower two units, and the response file lists their objects in order. -/
theorem lists_in_order_shared :
    ∃ outcome st', (sharingBuilder.logging.build (listingRequest ⟨"/w/app.rsp"⟩)).run
        ⟨smallTree, ([], ()), .empty⟩ = (.ok outcome, st') ∧
      (∃ units debasing lowering archiving,
        sharingBuilder.Listing (listingRequest ⟨"/w/app.rsp"⟩) ⟨smallTree, ([], ()), .empty⟩ outcome
          st' units debasing lowering archiving) ∧
      (st'.files.read [] ⟨"/w/app.rsp"⟩).toOption = some (Utf8.encode "opt/a.o opt/b.o") := by
  have hended : ((sharingBuilder.logging.build (listingRequest ⟨"/w/app.rsp"⟩)).run
      ⟨smallTree, ([], ()), .empty⟩).1.toOption.isSome = true := by decide +kernel
  have hread : (((sharingBuilder.logging.build (listingRequest ⟨"/w/app.rsp"⟩)).run
      ⟨smallTree, ([], ()), .empty⟩).2.files.read [] ⟨"/w/app.rsp"⟩).toOption =
        some (Utf8.encode "opt/a.o opt/b.o") := by decide +kernel
  rcases hrun : (sharingBuilder.logging.build (listingRequest ⟨"/w/app.rsp"⟩)).run
    ⟨smallTree, ([], ()), .empty⟩ with ⟨e | outcome, st'⟩
  · simp [hrun, Except.toOption] at hended
  · rw [hrun] at hread
    exact ⟨outcome, st', rfl, lists_in_order hrun, hread⟩

/-- A build of which it is known that it ends well, and what it lists. -/
theorem exists_listed {st : BuildState σ} {objects : List Path}
    (h : ((b.build r).run st).1.toOption.map (fun outcome => outcome.lower.objects) =
      some objects) :
    ∃ outcome, (b.build r).run st = (.ok outcome, ((b.build r).run st).2) ∧
      outcome.lower.objects = objects := by
  rcases hrun : (b.build r).run st with ⟨e | outcome, st'⟩
  · simp [hrun, Except.toOption] at h
  · exact ⟨outcome, rfl, by simpa [hrun, Except.toOption] using h⟩

/-- A directory whose name spells no text, and in it a manifest that names the directory above. -/
def oddTree : FileTree :=
  { entries := [("debase", .file [1] true), ("w\u00ff", .directory [("app.bc", .file [2] false),
      ("lib", .directory [("app.json",
        .file (Utf8.encode "\x7b\"files\": [\"..\"]\x7d") false)])])] }

/-- The request for a response file there. -/
def oddRequest : Request :=
  { listingRequest ⟨"/w\u00ff/app.rsp"⟩ with outputDir := ⟨"/w\u00ff"⟩ }

/-- **A response file need not list anything.** The small build ends well with two objects, and
nothing can be read where it was to list them. A response file that is no device need not list an
object as it is: a path that spells no text is listed as it is shown. -/
theorem not_always_listed :
    (¬ ∀ (b : Builder Unit) (r : Request) (st st' : BuildState Unit) (outcome : BuildOutcome)
        (path : Path), (b.build r).run st = (.ok outcome, st') → r.publish = .response path →
      st'.files.read b.cwd path =
        .ok (Octets.toBytes (String.intercalate " " (outcome.lower.objects.map Path.text)))) ∧
    ¬ ∀ (b : Builder Unit) (r : Request) (st st' : BuildState Unit) (outcome : BuildOutcome)
        (path : Path), (b.build r).run st = (.ok outcome, st') → r.publish = .response path →
      st'.files.isDevice b.cwd path = false → st'.files.read b.cwd path =
        .ok (Octets.toBytes (String.intercalate " " (outcome.lower.objects.map Path.text))) := by
  constructor
  · intro h
    have hlisted : ((smallBuilder.build (listingRequest ⟨"/dev/null"⟩)).run
        ⟨nullTree, (), .empty⟩).1.toOption.map (fun outcome => outcome.lower.objects) =
          some [⟨"opt/a.o"⟩, ⟨"opt/b.o"⟩] := by decide +kernel
    have hempty : (((smallBuilder.build (listingRequest ⟨"/dev/null"⟩)).run
        ⟨nullTree, (), .empty⟩).2.files.read smallBuilder.cwd ⟨"/dev/null"⟩).toOption =
          some [] := by decide +kernel
    obtain ⟨outcome, hrun, hobjects⟩ := exists_listed hlisted
    rw [h _ _ _ _ outcome ⟨"/dev/null"⟩ hrun rfl, hobjects] at hempty
    exact absurd hempty (by decide +kernel)
  · intro h
    have hlisted : ((pairedBuilder.build oddRequest).run ⟨oddTree, (), .empty⟩).1.toOption.map
        (fun outcome => outcome.lower.objects) = some [⟨"/w\u00ff/...o"⟩] := by decide +kernel
    have hshown : (((pairedBuilder.build oddRequest).run ⟨oddTree, (), .empty⟩).2.files.read
        pairedBuilder.cwd ⟨"/w\u00ff/app.rsp"⟩).toOption =
          some (Utf8.encode "/w\ufffd/...o") := by decide +kernel
    obtain ⟨outcome, hrun, hobjects⟩ := exists_listed hlisted
    rw [h _ _ _ _ outcome ⟨"/w\u00ff/app.rsp"⟩ hrun rfl (by decide +kernel), hobjects] at hshown
    exact absurd hshown (by decide +kernel)

end Builder

end ModuleBuild
