import ModuleBuild.Proofs.Build.Listing
import ModuleBuild.Proofs.Path.Components

/-!
# Where objects lie

The object of a unit with a last name lies right in the directory for objects, whatever else is in
the path of the unit: only the last name of it is used, and a name holds no slash. In the list of
objects it is seen from the output directory.

## Units without a last name

A manifest may also list a path that ends in two dots, or the root. Such a unit has no last name, so
its object is named after its whole path. Units are absolute, hence so is that name, and an absolute
path below the directory for objects is itself. So the path of the object is that of the unit with
an extension, it is seen from the root in the list of objects, and `Request.not_always_inside` shows
that it can be outside of the directory for objects.

## Main definitions

* `Request.Inside` — the object of a unit lies right in the directory for objects
* `Request.Astray` — the object of a unit lies where the path of the unit leads

## Main results

* `Path.fileName?_join` — the last name of a path below another one
* `Path.fileStem?_eq_none_iff` — which absolute paths have no last name
* `Builder.object_places` — where the objects of a batch lie, and where the tool is told to put them
* `Request.not_always_inside` — not all of them lie in the directory for objects
-/

namespace ModuleBuild

namespace Path

variable {p base : Path} {name : String}

theorem fileStem?_eq_none : p.fileStem? = none ↔ p.fileName? = none := by
  rw [fileStem?, Option.map_eq_none_iff]

/-- An absolute path has no last name if it is the root, or if it ends in two dots. -/
theorem fileStem?_eq_none_iff (h : p.isAbsolute = true) :
    p.fileStem? = none ↔ p.components = [.root] ∨ p.components.getLast? = some .parent := by
  rw [fileStem?_eq_none, fileName?, components_of_isAbsolute h, List.getLast?_cons]
  rcases hlast : (p.pieces.tail.filterMap component?).getLast? with _ | c
  · simpa using hlast
  · have hmem := List.mem_of_getLast? hlast
    have hne : p.pieces.tail.filterMap component? ≠ [] := List.ne_nil_of_mem hmem
    obtain ⟨piece, -, hpiece⟩ := List.mem_filterMap.1 hmem
    rcases component?_eq_some hpiece with rfl | ⟨s, rfl⟩
    · simp
    · simp [hne]

/-- The last name of a path is the last of the texts between its slashes that stand for
anything. -/
theorem getLast?_filterMap_pieces (hrelative : p.isAbsolute = false) (h : p.fileName? = some name) :
    (p.pieces.filterMap component?).getLast? = some (.name name) := by
  have hlast : p.components.getLast? = some (.name name) := by
    unfold fileName? at h
    split at h
    · rename_i s hs
      rw [hs, Option.some.inj h]
    · simp at h
  unfold components at hlast
  split at hlast
  · simp at hlast
  rename_i first rest hpieces
  rw [hpieces]
  simp only [hrelative, Bool.false_eq_true, if_false] at hlast
  split at hlast
  · -- the dot at the front is not the last component
    rename_i hdot
    have hfirst : component? first = none := by
      rw [show first = ['.'] by simpa using hdot]
      rfl
    rw [List.filterMap_cons_none hfirst]
    rw [List.getLast?_cons] at hlast
    rcases hrest : (rest.filterMap component?).getLast? with _ | c
    · simp [hrest] at hlast
    · simpa [hrest] using hlast
  · rcases hfirst : component? first with _ | c
    · rw [List.filterMap_cons_none hfirst]
      simpa [hfirst] using hlast
    · rw [List.filterMap_cons_some hfirst]
      simpa [hfirst] using hlast

/-- **The last name of a path** is also that of the path below an absolute one. -/
theorem fileName?_join (hbase : base.isAbsolute = true) (h : p.fileName? = some name) :
    (base.join p).fileName? = some name := by
  rcases hp : p.isAbsolute with _ | _
  · rw [fileName?, components_join hbase hp, List.getLast?_append, getLast?_filterMap_pieces hp h]
    rfl
  · rw [join_of_isAbsolute base hp, h]

theorem fileStem?_join (hbase : base.isAbsolute = true) (h : p.fileStem? = some name) :
    (base.join p).fileStem? = some name := by
  obtain ⟨whole, hwhole, rfl⟩ := Option.map_eq_some_iff.1 h
  rw [fileStem?, fileName?_join hbase hwhole, Option.map_some]

end Path

namespace Request

variable {r : Request} {unit : Path} {name : String}

/-- The name of an object is a name. -/
theorem component?_object (name : String) :
    Path.component? (name ++ ".o").toList = some (.name (name ++ ".o")) := by
  have hlast : (name ++ ".o").toList.getLast? = some 'o' := by simp
  exact Path.component?_of_getLast? hlast (by decide)

/-- The object of a unit lies right in the directory for objects. -/
structure Inside (r : Request) (unit : Path) (name : String) : Prop where
  /-- It is a name. -/
  plain : name ≠ "" ∧ '/' ∉ name.toList
  /-- In the list of objects it is seen from the output directory. -/
  object_eq : objectFor unit = ⟨"opt" ++ ("/" ++ (name ++ ".o"))⟩
  /-- There it has one component below the directory for objects. -/
  components_object : (objectFor unit).components = [.name "opt", .name (name ++ ".o")]
  /-- The lowering tool is told to put it into the directory for objects. -/
  output_eq : r.objectPath unit = ⟨r.optDir.text ++ ("/" ++ (name ++ ".o"))⟩
  /-- There it has one component more than that directory. -/
  components_output : (r.objectPath unit).components =
    r.optDir.components ++ [.name (name ++ ".o")]
  /-- In every file tree it is there, unless a link is in its place. -/
  leads : ∀ (t : FileTree) (cwd l : Location), t.locate cwd (r.objectPath unit) = .ok l →
    ∃ d, t.locate cwd r.optDir = .ok d ∧
      (l = d ++ [name ++ ".o"] ∨ ∃ target, t.entryAt? (d ++ [name ++ ".o"]) = some (.link target))

/-- The object of a unit lies where the path of the unit leads. -/
structure Astray (r : Request) (unit : Path) : Prop where
  /-- The unit is the root, or ends in two dots. -/
  ends : unit.components = [.root] ∨ unit.components.getLast? = some .parent
  /-- In the list of objects it is named after the whole path of the unit. -/
  object_eq : objectFor unit = ⟨unit.text ++ ".o"⟩
  /-- So it is seen from the root. -/
  isAbsolute : (objectFor unit).isAbsolute = true
  /-- The lowering tool is told to put it there. -/
  output_eq : r.objectPath unit = objectFor unit

theorem inside_of_fileStem? (h : unit.fileStem? = some name) : r.Inside unit name := by
  obtain ⟨hne, hslash⟩ := Path.fileStem?_spec h
  have hobject : objectFor unit = ⟨"opt" ++ ("/" ++ (name ++ ".o"))⟩ := objectFor_eq h
  have hslash' : '/' ∉ (name ++ ".o").toList := by
    rw [String.toList_append, List.mem_append]
    simpa using hslash
  constructor
  case plain => exact ⟨hne, hslash⟩
  case object_eq => exact hobject
  case components_object =>
    rw [hobject]
    exact Path.components_below ⟨"opt"⟩ (by decide) hslash' (component?_object name)
  case output_eq => exact objectPath_eq h
  case components_output =>
    rw [objectPath_eq h]
    exact Path.components_below _ (r.outputDir.text_join_ne (by decide)) hslash'
      (component?_object name)
  case leads => exact fun t cwd l hl => exists_optDir_of_locate h hl

theorem astray_of_fileStem? (hroot : unit.isAbsolute = true) (h : unit.fileStem? = none) :
    r.Astray unit := by
  have hname : objectName unit = unit.text := by
    rw [objectName, Path.nameOr, h, Option.getD_none]
  have hhead : unit.text.toList.head? = some '/' := by simpa [Path.isAbsolute] using hroot
  have hobject : objectFor unit = ⟨unit.text ++ ".o"⟩ := by
    have htext := text_objectFor unit
    rw [hname, if_pos hhead] at htext
    have heq : (objectFor unit).text = unit.text ++ ".o" := by
      refine String.toList_inj.1 (htext.trans ?_)
      simp
    rw [← heq]
  have habsolute : (objectFor unit).isAbsolute = true := by
    rw [hobject, Path.isAbsolute, String.toList_append, List.head?_append, hhead]
    rfl
  constructor
  case ends => exact (Path.fileStem?_eq_none_iff hroot).1 h
  case object_eq => exact hobject
  case isAbsolute => exact habsolute
  case output_eq => exact Path.join_of_isAbsolute _ habsolute

/-- The output directory of a request is the wish of the caller, made absolute, or the working
directory. -/
theorem outputDir_of_ofOptions {cwd : Path} {o : RequestOptions} (h : ofOptions cwd o = .ok r) :
    (∃ dir, place cwd dir = .ok r.outputDir) ∨ r.outputDir = cwd := by
  simp only [ofOptions, bind, Except.bind, throw, throwThe, MonadExceptOf.throw, pure,
    Except.pure] at h
  -- Only the cases without an error are left, one for each way to the output directory.
  repeat' split at h
  all_goals simp only [Except.ok.injEq, reduceCtorEq] at h
  · rename_i dir _ _ placed hplaced _ _ _
    exact .inl ⟨dir, h ▸ hplaced⟩
  · exact .inr (h ▸ rfl)

/-- It is absolute. -/
theorem isAbsolute_outputDir {cwd : Path} {o : RequestOptions} (habs : cwd.isAbsolute = true)
    (h : ofOptions cwd o = .ok r) : r.outputDir.isAbsolute = true := by
  rcases outputDir_of_ofOptions h with ⟨dir, hplace⟩ | hcwd
  · exact Path.isAbsolute_of_absolute? habs (absolute?_of_place hplace)
  · rw [hcwd, habs]

end Request

namespace Builder

variable {σ : Type}

/-- **Where objects lie.** The object of a unit with a last name lies right in the directory for
objects, and that of another one where the path of the unit leads. A unit has a last name if its
entry in the manifest has one. The lowering tool is told to put each object where it lies, and what
is listed are objects of units, whatever the tools, the number of workers and the order of their
steps. -/
theorem object_places (b : Builder σ) {cwd : Path} {o : RequestOptions} {r : Request}
    (habs : cwd.isAbsolute = true) (h : Request.ofOptions cwd o = .ok r) (manifest : Manifest) :
    (∀ unit ∈ manifest.units r.outputDir,
      (∀ name, unit.fileStem? = some name → r.Inside unit name) ∧
      (unit.fileStem? = none → r.Astray unit)) ∧
    (∀ entry ∈ manifest.files, ∀ name, entry.fileStem? = some name →
      (r.outputDir.join entry).fileStem? = some name) ∧
    ∀ st : BuildState (List Call × σ), ∃ calls,
      ((b.logging.lowerUnits r (manifest.units r.outputDir)).run st).2.tools.1 =
        st.tools.1 ++ calls ∧
      (∀ call ∈ calls, ∃ unit ∈ manifest.units r.outputDir, ∃ flags, "-o" ∉ flags ∧
        call.1.arguments = flags ++ ["-o", (r.objectPath unit).text, unit.text]) ∧
      ∀ report, ((b.logging.lowerUnits r (manifest.units r.outputDir)).run st).1 = .ok report →
        ∀ object ∈ report.objects, ∃ unit ∈ manifest.units r.outputDir,
          object = Request.objectFor unit := by
  have hroot := Request.isAbsolute_outputDir habs h
  refine ⟨?_, fun entry _ name hname => Path.fileStem?_join hroot hname, ?_⟩
  · intro unit hunit
    obtain ⟨entry, -, rfl⟩ := List.mem_map.1 hunit
    exact ⟨fun name => Request.inside_of_fileStem?,
      Request.astray_of_fileStem? (Path.isAbsolute_join hroot entry)⟩
  · intro st
    rcases hdir : (st.files.createDirectories b.cwd r.optDir).1 with fault | ⟨⟩
    · rw [run_lowerUnits_of_error _ hdir]
      exact ⟨[], (List.append_nil _).symm, by simp, by simp⟩
    · obtain ⟨attempts, report, st', hlowered⟩ :=
        exists_lowered b r (manifest.units r.outputDir) st hdir
      rw [hlowered.run_eq]
      refine ⟨attempts.map Attempt.call, hlowered.log_eq, ?_, ?_⟩
      · rw [List.forall_mem_map]
        intro a ha
        obtain ⟨flags, hflags, harguments⟩ := arguments_lowerInvocation b r a.unit
        refine ⟨a.unit, hlowered.mem_units a ha, flags, hflags, ?_⟩
        rw [hlowered.call_eq a ha]
        exact harguments
      · intro report' hreport object hobject
        obtain rfl := Except.ok.inj hreport
        obtain ⟨unit, hunit, rfl⟩ := List.mem_map.1 (hlowered.objects_sublist.mem hobject)
        exact ⟨unit, hunit, rfl⟩

/-- One unit with a last name and one without. -/
def strayManifest : Manifest := ⟨[⟨"lib/a.bc"⟩, ⟨"lib/.."⟩]⟩

/-- The object of the one lies in the directory for objects, and that of the other does not. -/
theorem object_places_stray :
    ∃ r, Path.isAbsolute ⟨"/w"⟩ = true ∧
      Request.ofOptions ⟨"/w"⟩ (Request.optionsFor []) = .ok r ∧
      r.Inside ⟨"/w/lib/a.bc"⟩ "a" ∧ r.Astray ⟨"/w/lib/.."⟩ := by
  have habs : Path.isAbsolute ⟨"/w"⟩ = true := by decide
  have h : Request.ofOptions ⟨"/w"⟩ (Request.optionsFor []) = .ok (Request.requestIn "/w" []) := rfl
  obtain ⟨hplaces, -⟩ := object_places smallBuilder habs h strayManifest
  refine ⟨_, habs, h, (hplaces ⟨"/w/lib/a.bc"⟩ ?_).1 "a" ?_, (hplaces ⟨"/w/lib/.."⟩ ?_).2 ?_⟩
  all_goals decide +kernel

end Builder

/-- **An object is not always inside.** The object of a unit whose entry ends in two dots is not
seen from the output directory, and the lowering tool is told to put it elsewhere than right in the
directory for objects. -/
theorem Request.not_always_inside :
    (¬ ∀ (cwd : Path) (o : RequestOptions) (r : Request) (manifest : Manifest),
      cwd.isAbsolute = true → ofOptions cwd o = .ok r →
        ∀ unit ∈ manifest.units r.outputDir, ∃ name,
          (objectFor unit).components = [.name "opt", .name name]) ∧
    ¬ ∀ (cwd : Path) (o : RequestOptions) (r : Request) (manifest : Manifest),
      cwd.isAbsolute = true → ofOptions cwd o = .ok r →
        ∀ unit ∈ manifest.units r.outputDir, ∃ name,
          (r.objectPath unit).components = r.optDir.components ++ [.name name] := by
  constructor
  · intro h
    obtain ⟨name, hname⟩ := h ⟨"/w"⟩ (optionsFor []) (requestIn "/w" [])
      Builder.strayManifest (by decide) rfl ⟨"/w/lib/.."⟩ (by decide +kernel)
    have hobject : (objectFor ⟨"/w/lib/.."⟩).components.head? = some .root := by decide +kernel
    simp [hname] at hobject
  · intro h
    obtain ⟨name, hname⟩ := h ⟨"/w"⟩ (optionsFor []) (requestIn "/w" [])
      Builder.strayManifest (by decide) rfl ⟨"/w/lib/.."⟩ (by decide +kernel)
    have hdirectory := congrArg List.dropLast hname
    rw [List.dropLast_concat] at hdirectory
    exact absurd hdirectory (by decide +kernel)

end ModuleBuild
