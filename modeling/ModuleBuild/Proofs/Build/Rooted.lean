import ModuleBuild.Proofs.Build.ObjectPlaces
import ModuleBuild.Proofs.Cache.Tool
import ModuleBuild.Proofs.Path.Absolute

/-!
# Paths in tool calls

The tools are not run where the program is: the first tool is run in the output directory, and the
lowering tool in the directory for objects below it. So a relative path in a call would be followed
from another directory than the one it was written for, and would name another file there without
any fault. No call has one. The target, the directory for the units, the input files, the objects
and the units are all absolute, whatever was written for them in the options and in the manifest,
and an absolute path leads to the same from every directory.

The other arguments are flags, or they are handed through to the first tool as they were given;
these are not looked at. The call for an archive is not of this kind, since it lists the objects as
they are seen from the output directory.

## Main definitions

* `Path.Rooted` — a path that leads to the same from every directory
* `Invocation.Rooted` — a tool call that names places by such paths only
* `Builder.Anchored` — which paths the two tools are given, and where they stand in the calls
* `Builder.OnlyCalls` — no other calls were made between two states

## Main results

* `Builder.anchored` — both tools are given rooted paths
* `Builder.onlyCalls_build` — the calls of a build, for any tools and any number of workers
* `Builder.calls_rooted` — no call of either tool hangs on where it is made
-/

namespace ModuleBuild

/-! ### Rooted paths -/

/-- A path that does not hang on the directory that it is followed from. -/
structure Path.Rooted (p : Path) : Prop where
  /-- It begins at the root. -/
  isAbsolute : p.isAbsolute = true
  /-- It leads to the same from every directory. -/
  entry_eq : ∀ (t : FileTree) (l l' : Location), t.entry l p = t.entry l' p

theorem Path.rooted_of_isAbsolute {p : Path} (h : p.isAbsolute = true) : p.Rooted :=
  ⟨h, fun t l l' => FileTree.entry_of_isAbsolute h t l l'⟩

/-- A path below a rooted one is rooted, whatever is written there. -/
theorem Path.Rooted.join {base : Path} (h : base.Rooted) (p : Path) : (base.join p).Rooted :=
  rooted_of_isAbsolute (isAbsolute_join h.isAbsolute p)

/-- It is rooted as an argument too, where it is read back from its text. -/
theorem Path.Rooted.mk_text {p : Path} (h : p.Rooted) : Path.Rooted ⟨p.text⟩ := h

/-- An argument that is no path. -/
def IsFlag (word : String) : Prop := word.toList.head? = some '-'

theorem isFlag_append (flag : String) (h : IsFlag flag) (rest : String) :
    IsFlag (flag ++ rest) := by
  rw [IsFlag] at h ⊢
  rw [String.toList_append, List.head?_append, h, Option.some_or]

theorem isFlag_ofText (flag : String) (hascii : Octets.IsAscii flag) (h : IsFlag flag)
    (rest : String) : IsFlag (Octets.ofText (flag ++ rest)) := by
  rw [Octets.ofText_append, Octets.ofText_of_ascii hascii]
  exact isFlag_append flag h _

/-- A tool call that names places by rooted paths only. Each of its arguments is a flag, or it is
handed through, or it is a rooted path. -/
structure Invocation.Rooted (i : Invocation) (handed : List String) : Prop where
  /-- It is made in a rooted path. -/
  cwd : i.cwd.Rooted
  /-- So are the places among its arguments. -/
  arguments : ∀ word ∈ i.arguments, IsFlag word ∨ word ∈ handed ∨ Path.Rooted ⟨word⟩

theorem Invocation.Rooted.of_nil {i : Invocation} (h : i.Rooted []) (handed : List String) :
    i.Rooted handed :=
  ⟨h.cwd, fun word hword => (h.arguments word hword).imp_right fun hrooted =>
    .inr (hrooted.resolve_left List.not_mem_nil)⟩

/-! ### The working directory -/

namespace Command

open ModuleBuild.Path (Component EndsInName IsRoot)

/-- Names below a path that ends in one. -/
theorem extend_names {s : String} (hs : EndsInName ⟨s⟩) {l : Location}
    (h : ∀ name ∈ l, (Component.name name).IsStep) :
    Path.extend ⟨s⟩ (l.map .name) = ⟨String.intercalate "/" (s :: l)⟩ := by
  induction l generalizing s with
  | nil =>
    rw [String.intercalate_singleton]
    rfl
  | cons name l ih =>
    obtain ⟨hname, hl⟩ := List.forall_mem_cons.1 h
    have hjoin : Path.join ⟨s⟩ ⟨name⟩ = ⟨s ++ "/" ++ name⟩ :=
      hs.join_of_relative hname.isAbsolute_text
    have hends : EndsInName ⟨s ++ "/" ++ name⟩ := hjoin ▸ hname.endsInName.join ⟨s⟩
    have hrest := ih hends hl
    rw [String.intercalate_cons_append] at hrest
    rw [String.intercalate_cons_cons]
    exact (congrArg (Path.extend · _) hjoin).trans hrest

/-- **The path of a location is tidy**, if the names on the way are names. -/
theorem tidy_pathOf {l : Location} (h : ∀ name ∈ l, (Component.name name).IsStep) :
    (pathOf l).Tidy := by
  have hroot : IsRoot ⟨"/"⟩ := .inl rfl
  have hpath : pathOf l = Path.ended false (Path.extend ⟨"/"⟩ (l.map .name)) := by
    cases l with
    | nil =>
      rw [pathOf, String.intercalate_nil]
      rfl
    | cons name l =>
      obtain ⟨hname, hl⟩ := List.forall_mem_cons.1 h
      have hjoin : Path.join ⟨"/"⟩ ⟨name⟩ = ⟨"/" ++ name⟩ :=
        congrArg Path.mk (hroot.text_join hname.isAbsolute_text)
      have hends : EndsInName ⟨"/" ++ name⟩ := hjoin ▸ hname.endsInName.join ⟨"/"⟩
      have hrest := extend_names hends hl
      rw [String.intercalate_cons_append] at hrest
      exact ((congrArg (Path.extend · _) hjoin).trans hrest).symm
  rw [hpath]
  exact .intro hroot (List.forall_mem_map.2 h) false

end Command

namespace Request

variable {r : Request} {cwd : Path} {o : RequestOptions}

/-- The input files are absolute. -/
theorem isAbsolute_files (habs : cwd.isAbsolute = true) (h : ofOptions cwd o = .ok r) :
    ∀ p ∈ r.files, p.isAbsolute = true :=
  forall_of_mapM_eq_ok (fun _ _ _ hp => Path.isAbsolute_of_absolute? habs (absolute?_of_place hp))
    (lists_of_ofOptions h).2

/-- The places that a request is told of from outside are absolute. -/
theorem isAbsolute_places (habs : cwd.isAbsolute = true) (h : ofOptions cwd o = .ok r) :
    ∀ p ∈ r.outputDir :: r.files, p.isAbsolute = true :=
  List.forall_mem_cons.2 ⟨isAbsolute_outputDir habs h, isAbsolute_files habs h⟩

/-- They are tidy if the request is made in a tidy directory. -/
theorem tidy_places (hcwd : cwd.Tidy) (h : ofOptions cwd o = .ok r) :
    ∀ p ∈ r.outputDir :: r.files, p.Tidy := by
  refine List.forall_mem_cons.2 ⟨?_, ?_⟩
  · rcases outputDir_of_ofOptions h with ⟨dir, hplace⟩ | heq
    · exact Path.tidy_of_absolute? hcwd (absolute?_of_place hplace)
    · rw [heq]
      exact hcwd
  · refine forall_of_mapM_eq_ok (fun _ _ p hp => ?_) (lists_of_ofOptions h).2
    exact Path.tidy_of_absolute? hcwd (absolute?_of_place hp)

end Request

namespace Builder

variable {σ : Type} {b : Builder σ} {r : Request} {units : List Path}

/-! ### The two calls -/

/-- What the two tools are told of places: all that is no flag and is not handed through. -/
structure Anchored (b : Builder σ) (r : Request) (units : List Path) : Prop where
  /-- The first tool is given its target, the directory for the units and the input files. -/
  debase_arguments : ∃ flags, (∀ flag ∈ flags, IsFlag flag) ∧ (b.debaseInvocation r).arguments =
    [r.targetPath.text, "-o", r.libDir.text] ++ flags ++ r.passthrough.map Octets.ofText ++
      r.files.map Path.text
  /-- They are rooted, and so is the directory of the call. -/
  debase_rooted : ∀ p ∈ (b.debaseInvocation r).cwd :: r.targetPath :: r.libDir :: r.files, p.Rooted
  /-- The lowering tool is given the object of a unit, and the unit. -/
  lower_arguments : ∀ unit ∈ units, ∃ flags, (∀ flag ∈ flags, IsFlag flag) ∧
    (b.lowerInvocation r unit).arguments = flags ++ ["-o", (r.objectPath unit).text, unit.text]
  /-- They are rooted, and so is the directory of the call. -/
  lower_rooted : ∀ unit ∈ units,
    ∀ p ∈ [(b.lowerInvocation r unit).cwd, r.objectPath unit, unit], p.Rooted

theorem exists_flags_debaseInvocation (b : Builder σ) (r : Request) :
    ∃ flags, (∀ flag ∈ flags, IsFlag flag) ∧ (b.debaseInvocation r).arguments =
      [r.targetPath.text, "-o", r.libDir.text] ++ flags ++ r.passthrough.map Octets.ofText ++
        r.files.map Path.text := by
  refine ⟨Octets.ofText s!"--output-filenames={r.manifestName}" :: policyFlags, ?_, rfl⟩
  have hname : IsFlag (Octets.ofText s!"--output-filenames={r.manifestName}") :=
    isFlag_ofText "--output-filenames=" (by decide) rfl _
  have hpolicy : ∀ flag ∈ policyFlags, IsFlag flag := by
    simp [policyFlags, IsFlag]
  exact List.forall_mem_cons.2 ⟨hname, hpolicy⟩

theorem exists_flags_lowerInvocation (b : Builder σ) (r : Request) (unit : Path) :
    ∃ flags, (∀ flag ∈ flags, IsFlag flag) ∧ (b.lowerInvocation r unit).arguments =
      flags ++ ["-o", (r.objectPath unit).text, unit.text] := by
  refine ⟨_, ?_, List.append_cons _ _ _⟩
  have hlevel := isFlag_append "-O=" rfl (r.profile.flags r.framePointer).level.repr
  have hpointer := isFlag_append "--frame-pointer=" rfl
    (r.profile.flags r.framePointer).framePointer.name
  have hregalloc : ∀ name : String, IsFlag (Octets.ofText s!"--regalloc={name}") :=
    isFlag_ofText "--regalloc=" (by decide) rfl
  have hkind : IsFlag "-filetype=obj" := rfl
  rcases b.lowering.regalloc with _ | name
  · simpa [LoweringFlags.arguments] using ⟨hlevel, hpointer, hkind⟩
  · simpa [LoweringFlags.arguments] using ⟨hlevel, hpointer, hregalloc name, hkind⟩

/-- **Both tools are given rooted paths**, for units that are seen from the output directory. -/
theorem anchored (b : Builder σ) {cwd : Path} {o : RequestOptions}
    (habs : cwd.isAbsolute = true) (h : Request.ofOptions cwd o = .ok r) (manifest : Manifest) :
    b.Anchored r (manifest.units r.outputDir) := by
  have hplaces := fun p hp => Path.rooted_of_isAbsolute (Request.isAbsolute_places habs h p hp)
  obtain ⟨hroot, hfiles⟩ := List.forall_mem_cons.1 hplaces
  constructor
  case debase_arguments => exact exists_flags_debaseInvocation b r
  case debase_rooted =>
    exact List.forall_mem_cons.2 ⟨hroot, List.forall_mem_cons.2 ⟨hroot.join _,
      List.forall_mem_cons.2 ⟨hroot.join _, hfiles⟩⟩⟩
  case lower_arguments => exact fun unit _ => exists_flags_lowerInvocation b r unit
  case lower_rooted =>
    intro unit hunit
    obtain ⟨entry, -, rfl⟩ := List.mem_map.1 hunit
    exact List.forall_mem_cons.2 ⟨hroot.join ⟨"opt"⟩, List.forall_mem_cons.2 ⟨hroot.join _,
      List.forall_mem_singleton.2 (hroot.join entry)⟩⟩

theorem Anchored.rooted_debaseInvocation (h : b.Anchored r units) :
    (b.debaseInvocation r).Rooted (r.passthrough.map Octets.ofText) := by
  obtain ⟨flags, hflags, harguments⟩ := h.debase_arguments
  obtain ⟨hcwd, hplaces⟩ := List.forall_mem_cons.1 h.debase_rooted
  obtain ⟨htarget, hplaces⟩ := List.forall_mem_cons.1 hplaces
  obtain ⟨hlib, hfiles⟩ := List.forall_mem_cons.1 hplaces
  refine ⟨hcwd, fun word hword => ?_⟩
  rw [harguments] at hword
  simp only [List.append_assoc, List.mem_append, List.mem_cons, List.not_mem_nil, or_false,
    List.mem_map] at hword
  rcases hword with (rfl | rfl | rfl) | hflag | hhanded | ⟨p, hp, rfl⟩
  · exact .inr (.inr htarget.mk_text)
  · exact .inl rfl
  · exact .inr (.inr hlib.mk_text)
  · exact .inl (hflags word hflag)
  · exact .inr (.inl (List.mem_map.2 hhanded))
  · exact .inr (.inr (hfiles p hp).mk_text)

theorem Anchored.rooted_lowerInvocation (h : b.Anchored r units) {unit : Path}
    (hunit : unit ∈ units) : (b.lowerInvocation r unit).Rooted [] := by
  obtain ⟨flags, hflags, harguments⟩ := h.lower_arguments unit hunit
  obtain ⟨hcwd, hplaces⟩ := List.forall_mem_cons.1 (h.lower_rooted unit hunit)
  obtain ⟨hobject, hrest⟩ := List.forall_mem_cons.1 hplaces
  refine ⟨hcwd, fun word hword => ?_⟩
  rw [harguments] at hword
  simp only [List.mem_append, List.mem_cons, List.not_mem_nil, or_false] at hword
  rcases hword with hflag | rfl | rfl | rfl
  · exact .inl (hflags word hflag)
  · exact .inl rfl
  · exact .inr (.inr hobject.mk_text)
  · exact .inr (.inr (List.forall_mem_singleton.1 hrest).mk_text)

/-! ### The calls of a build -/

/-- The calls of a batch, for any number of workers and any order of their steps: each is for one of
its units. -/
theorem exists_calls_lowerUnits (b : Builder σ) (r : Request) (units : List Path)
    (st : BuildState (List Call × σ)) :
    ∃ calls, ((b.logging.lowerUnits r units).run st).2.tools.1 = st.tools.1 ++ calls ∧
      ∀ call ∈ calls, ∃ unit ∈ units, call.1 = b.lowerInvocation r unit := by
  rcases hdir : (st.files.createDirectories b.cwd r.optDir).1 with fault | ⟨⟩
  · rw [run_lowerUnits_of_error _ hdir]
    exact ⟨[], (List.append_nil _).symm, nofun⟩
  · obtain ⟨attempts, report, st', hlowered⟩ := exists_lowered b r units st hdir
    rw [hlowered.run_eq]
    refine ⟨attempts.map Attempt.call, hlowered.log_eq, List.forall_mem_map.2 fun a ha => ?_⟩
    exact ⟨a.unit, hlowered.mem_units a ha, hlowered.call_eq a ha⟩

/-- A call that a build may make. -/
inductive MayCall (b : Builder σ) (r : Request) : Invocation → Prop where
  /-- The call of the first tool for the target. -/
  | debase : MayCall b r (b.debaseInvocation r)
  /-- The call of the lowering tool for a unit of some manifest. -/
  | lower {unit : Path} (manifest : Manifest) (h : unit ∈ manifest.units r.outputDir) :
    MayCall b r (b.lowerInvocation r unit)
  /-- The call of the first tool for an archive, if one is asked for. -/
  | archive {name : Option String} (h : r.publish = .archive name) (objects : List Path) :
    MayCall b r (b.archiveInvocation r name objects)

variable {st st' st'' : BuildState (List Call × σ)}

/-- No other calls were made between two states of a build. -/
def OnlyCalls (b : Builder σ) (r : Request) (st st' : BuildState (List Call × σ)) : Prop :=
  ∃ calls, st'.tools.1 = st.tools.1 ++ calls ∧ ∀ call ∈ calls, b.MayCall r call.1

theorem OnlyCalls.trans (h : b.OnlyCalls r st st') (h' : b.OnlyCalls r st' st'') :
    b.OnlyCalls r st st'' := by
  obtain ⟨calls, hlog, hcalls⟩ := h
  obtain ⟨calls', hlog', hcalls'⟩ := h'
  refine ⟨calls ++ calls', ?_, List.forall_mem_append.2 ⟨hcalls, hcalls'⟩⟩
  rw [hlog', hlog, List.append_assoc]

theorem onlyCalls_debaseStep (b : Builder σ) (r : Request) (st : BuildState (List Call × σ)) :
    b.OnlyCalls r st ((b.logging.debaseStep r).run st).2 := by
  obtain ⟨calls, hlog, hleaves⟩ := log_debaseStep b r st
  rcases hleaves.calls_eq with rfl | ⟨answer, rfl⟩
  · exact ⟨[], hlog, nofun⟩
  · exact ⟨_, hlog, List.forall_mem_singleton.2 .debase⟩

theorem onlyCalls_lowerStep (b : Builder σ) (r : Request) (path : Path)
    (st : BuildState (List Call × σ)) :
    b.OnlyCalls r st ((b.logging.lowerStep r path).run st).2 := by
  rw [run_lowerStep]
  split
  · exact ⟨[], (List.append_nil _).symm, nofun⟩
  · rename_i manifest _
    obtain ⟨calls, hlog, hcalls⟩ := exists_calls_lowerUnits b r (manifest.units r.outputDir) st
    refine ⟨calls, hlog, fun call hcall => ?_⟩
    obtain ⟨unit, hunit, heq⟩ := hcalls call hcall
    exact heq ▸ .lower manifest hunit

theorem onlyCalls_publishStep (b : Builder σ) (r : Request) (report : LoweringReport)
    (st : BuildState (List Call × σ)) :
    b.OnlyCalls r st ((b.logging.publishStep r report).run st).2 := by
  obtain ⟨calls, hlog, hpublishes, -⟩ := log_publishStep b r report st
  rcases hpublishes.calls_eq with rfl | ⟨name, objects, answer, hmode, rfl⟩
  · exact ⟨[], hlog, nofun⟩
  · exact ⟨_, hlog, List.forall_mem_singleton.2 (.archive hmode objects)⟩

/-- **The calls of a build** are of these three kinds, whatever the tools, the number of workers and
the order of their steps. -/
theorem onlyCalls_build (b : Builder σ) (r : Request) (st : BuildState (List Call × σ)) :
    b.OnlyCalls r st ((b.logging.build r).run st).2 := by
  have hfirst := onlyCalls_debaseStep b r st
  rw [run_build]
  rcases hdebase : (b.logging.debaseStep r).run st with ⟨e | debase, st₁⟩
  · rw [hdebase] at hfirst
    exact hfirst
  rw [hdebase] at hfirst
  have hsecond := onlyCalls_lowerStep b r debase.manifestPath st₁
  rcases hlower : (b.logging.lowerStep r debase.manifestPath).run st₁ with ⟨e | report, st₂⟩
  · rw [hlower] at hsecond
    simpa only [hlower] using hfirst.trans hsecond
  rw [hlower] at hsecond
  have hthird := onlyCalls_publishStep b r report st₂
  rcases hpublish : (b.logging.publishStep r report).run st₂ with ⟨e | published, st₃⟩
  · rw [hpublish] at hthird
    simpa only [hlower, hpublish] using (hfirst.trans hsecond).trans hthird
  · rw [hpublish] at hthird
    simpa only [hlower, hpublish] using (hfirst.trans hsecond).trans hthird

/-- **No call of either tool hangs on where it is made.** A request that was made in an absolute
directory gives both tools rooted paths, whatever the manifest, and so does every call of a build
but that for an archive. Its output directory and its input files keep their components when they
are made absolute once more, wherever that is done. They stay the same to the letter if the
directory is written as a working directory is, with single slashes between names. -/
theorem calls_rooted (b : Builder σ) {cwd : Path} {o : RequestOptions}
    (habs : cwd.isAbsolute = true) (h : Request.ofOptions cwd o = .ok r) :
    (∀ manifest : Manifest, b.Anchored r (manifest.units r.outputDir)) ∧
    (∀ st : BuildState (List Call × σ), ∃ calls,
      ((b.logging.build r).run st).2.tools.1 = st.tools.1 ++ calls ∧
      ∀ call ∈ calls, call.1.Rooted (r.passthrough.map Octets.ofText) ∨
        ∃ name objects, r.publish = .archive name ∧ call.1 = b.archiveInvocation r name objects) ∧
    (∀ p ∈ r.outputDir :: r.files, ∀ there : Path,
      ∃ q, p.absolute? there = some q ∧ q.components = p.components) ∧
    ∀ place : Location, (∀ name ∈ place, (Path.Component.name name).IsStep) →
      cwd = Command.pathOf place →
      ∀ p ∈ r.outputDir :: r.files, ∀ there : Path, p.absolute? there = some p := by
  have hanchored := anchored b habs h
  refine ⟨hanchored, fun st => ?_, fun p hp => ?_, ?_⟩
  · obtain ⟨calls, hlog, hcalls⟩ := onlyCalls_build b r st
    refine ⟨calls, hlog, fun call hcall => ?_⟩
    obtain ⟨i, answer⟩ := call
    cases hcalls _ hcall with
    | debase => exact .inl (hanchored ⟨[]⟩).rooted_debaseInvocation
    | lower manifest hunit =>
      exact .inl (((hanchored manifest).rooted_lowerInvocation hunit).of_nil _)
    | @archive name hmode objects => exact .inr ⟨name, objects, hmode, rfl⟩
  · exact Path.exists_absolute? (Request.isAbsolute_places habs h p hp)
  · rintro place hplace rfl p hp
    exact (Request.tidy_places (Command.tidy_pathOf hplace) h p hp).absolute?_eq

/-- Entries of every shape. -/
def oddManifest : Manifest := ⟨[⟨""⟩, ⟨"."⟩, ⟨".."⟩, ⟨"lib//a.bc/"⟩, ⟨"/b.bc"⟩]⟩

/-- A target, an output directory and input files that are written in odd ways. -/
def oddOptions : RequestOptions where
  target := "..//app.bc"
  outputDir := some ⟨"./out//."⟩
  manifestName := "app.json"
  files := ["a//./b/;;..", "//c/"]

/-- Two tools are given rooted paths for what is written in odd ways. -/
theorem calls_rooted_odd :
    ∃ r, Path.isAbsolute ⟨"/w"⟩ = true ∧ Request.ofOptions ⟨"/w"⟩ oddOptions = .ok r ∧
      r.outputDir = ⟨"/w/out"⟩ ∧ r.files = [⟨"/w/a/b/"⟩, ⟨"/w/.."⟩, ⟨"//c/"⟩] ∧
      r.targetPath = ⟨"/w/out/..//app.bc"⟩ ∧
      oddManifest.units r.outputDir =
        [⟨"/w/out/"⟩, ⟨"/w/out/."⟩, ⟨"/w/out/.."⟩, ⟨"/w/out/lib//a.bc/"⟩, ⟨"/b.bc"⟩] ∧
      smallBuilder.Anchored r (oddManifest.units r.outputDir) ∧
      (r.objectPath ⟨"/w/out/.."⟩).Rooted ∧
      (∀ there, Path.absolute? ⟨"/w/a/b/"⟩ there = some ⟨"/w/a/b/"⟩) ∧
      ∀ there, Path.absolute? ⟨"//c/"⟩ there = some ⟨"//c/"⟩ := by
  have habs : Path.isAbsolute ⟨"/w"⟩ = true := by decide
  have h : Request.ofOptions ⟨"/w"⟩ oddOptions = .ok
      { Request.requestIn "/w/out" [⟨"/w/a/b/"⟩, ⟨"/w/.."⟩, ⟨"//c/"⟩] with
        target := ⟨"..//app.bc"⟩ } := by rfl
  obtain ⟨hanchored, -, -, hsame⟩ := calls_rooted smallBuilder habs h
  have hname : ∀ name ∈ ["w"], (Path.Component.name name).IsStep :=
    List.forall_mem_singleton.2 ⟨by decide, by decide +kernel⟩
  have hplaces := hsame ["w"] hname (by decide +kernel)
  have hobject := (hanchored oddManifest).lower_rooted ⟨"/w/out/.."⟩ (by decide +kernel)
  refine ⟨_, habs, h, by decide +kernel, by decide +kernel, by decide +kernel, by decide +kernel,
    hanchored oddManifest, hobject _ (by simp), hplaces _ ?_, hplaces _ ?_⟩
  all_goals decide +kernel

end Builder

end ModuleBuild
