import ModuleBuild.FileTree.Lemmas
import ModuleBuild.Proofs.Build.Tally
import ModuleBuild.Proofs.Cache.Config
import ModuleBuild.Proofs.Lowering.Order
import ModuleBuild.Proofs.Path.Components

/-!
# Objects of different units

Each unit is lowered to an object of its own, but only the last name of the unit goes into the path
of the object, and that without its extension. So units of one name in different directories, or
with different extensions, share an object, and the first tool has to name its units apart.

If it does, then no tool call of a batch writes what another one has written. This is so for any
tools, since each unit is attempted once at most and its call names its own object; and it is so in
any file tree that has no link in the place of an object.

## Main definitions

* `Request.objectName` — what the object of a unit is named after
* `Request.objectPath` — where the lowering tool is to put an object
* `Request.Apart` — two units whose objects are not in one place
* `Builder.Lowered` — the attempts of a batch, shared or in turn, and what the report lists

## Main results

* `Request.objectFor_inj` — units share an object exactly if they share its name
* `Request.objects_apart` — objects of different names lead to different places
* `Builder.exists_lowered` — every batch that has a directory for its objects
* `Builder.objects_distinct` — units of different names are lowered to different objects
* `Builder.objects_not_distinct` — different units need not be
-/

namespace ModuleBuild

/-! ### Names -/

namespace Path

variable {p : Path} {name : String}

/-- A name in a path is one of the texts between its slashes. -/
theorem mem_pieces_of_name_mem (h : .name name ∈ p.components) :
    name.toList ∈ p.pieces ∧ name ≠ "" := by
  obtain ⟨piece, hmem, hpiece⟩ := ((mem_components h).resolve_left nofun).resolve_left nofun
  have htext : name.toList = piece := toList_text_of_component? hpiece
  have hstep := isStep_of_mem_components h nofun nofun
  refine ⟨htext ▸ hmem, fun hempty => hstep.toList_text_ne ?_⟩
  simpa [Component.text] using hempty

/-- A stem is not empty, and has no character that its name does not have. -/
theorem stem_spec (h : name ≠ "") :
    stem name ≠ "" ∧ ∀ c ∈ (stem name).toList, c ∈ name.toList := by
  unfold stem
  dsimp only
  split
  · exact ⟨h, fun c hc => hc⟩
  · exact ⟨h, fun c hc => hc⟩
  · rename_i dot before hbefore hdrop
    have hsuffix : dot :: before <:+ name.toList.reverse := hdrop ▸ List.dropWhile_suffix _
    refine ⟨?_, fun c hc => ?_⟩
    · intro hempty
      exact hbefore (by simpa using congrArg String.toList hempty)
    · rw [String.toList_ofList, List.mem_reverse] at hc
      exact List.mem_reverse.1 (hsuffix.mem (List.mem_cons_of_mem _ hc))

/-- The stem of a path is a name. -/
theorem fileStem?_spec (h : p.fileStem? = some name) : name ≠ "" ∧ '/' ∉ name.toList := by
  rw [fileStem?, Option.map_eq_some_iff] at h
  obtain ⟨whole, hwhole, rfl⟩ := h
  unfold fileName? at hwhole
  split at hwhole
  · rename_i s hlast
    obtain rfl := Option.some.inj hwhole
    obtain ⟨hpiece, hne⟩ := mem_pieces_of_name_mem (List.mem_of_getLast? hlast)
    obtain ⟨hstem, hmem⟩ := stem_spec hne
    exact ⟨hstem, fun hslash => (mem_of_mem_splitOn hpiece (hmem _ hslash)).1 rfl⟩
  · simp at hwhole

/-- What a relative path is put behind hangs on the base alone. -/
theorem exists_front (base : Path) :
    ∃ front : String, ∀ p : Path, p.isAbsolute = false → base.join p = ⟨front ++ p.text⟩ := by
  by_cases h : (base.text.isEmpty || base.text.toList.getLast? == some '/') = true
  · refine ⟨base.text, fun p hp => ?_⟩
    simp only [join, hp, h, if_true]
    rfl
  · refine ⟨base.text ++ "/", fun p hp => ?_⟩
    simp only [join, hp, h]
    rfl

end Path

namespace Request

variable {r : Request} {u v : Path} {name name' : String}

/-- What the object of a unit is named after: its last name without the extension, or the whole path
if it has no last name. -/
def objectName (unit : Path) : String := unit.nameOr unit.text

/-- Where the lowering tool is to put the object of a unit. -/
def objectPath (r : Request) (unit : Path) : Path := r.outputDir.join (objectFor unit)

theorem objectName_of_fileStem? (h : u.fileStem? = some name) : objectName u = name := by
  rw [objectName, Path.nameOr, h, Option.getD_some]

/-- An object lies in the directory for objects, unless it is named after the whole path of its unit
and that is absolute. -/
theorem text_objectFor (unit : Path) :
    (objectFor unit).text.toList =
      if (objectName unit).toList.head? = some '/' then (objectName unit).toList ++ ['.', 'o']
      else "opt/".toList ++ ((objectName unit).toList ++ ['.', 'o']) := by
  have hhead : Path.isAbsolute ⟨objectName unit ++ ".o"⟩ =
      decide ((objectName unit).toList.head? = some '/') := by
    rw [Path.isAbsolute, String.toList_append, Bool.eq_iff_iff]
    cases (objectName unit).toList with
    | nil => decide
    | cons c rest => simp
  have hfor : objectFor unit = Path.join ⟨"opt"⟩ ⟨objectName unit ++ ".o"⟩ := rfl
  rw [hfor, Path.join, hhead]
  by_cases h : (objectName unit).toList.head? = some '/'
  · simp [h]
  · simp [h]

/-- The object of a unit with a last name is named after that name alone. -/
theorem objectFor_eq (h : u.fileStem? = some name) :
    objectFor u = ⟨"opt" ++ ("/" ++ (name ++ ".o"))⟩ := by
  obtain ⟨-, hslash⟩ := Path.fileStem?_spec h
  have hhead : name.toList.head? ≠ some '/' := fun hhead => hslash (List.mem_of_mem_head? hhead)
  have htext := text_objectFor u
  rw [objectName_of_fileStem? h, if_neg hhead] at htext
  have heq : (objectFor u).text = "opt" ++ ("/" ++ (name ++ ".o")) := by
    refine String.toList_inj.1 (htext.trans ?_)
    simp
  rw [← heq]

/-- The object of a unit with a last name lies in the directory for objects. -/
theorem objectPath_eq (h : u.fileStem? = some name) :
    r.objectPath u = ⟨r.optDir.text ++ ("/" ++ (name ++ ".o"))⟩ := by
  have hfor := objectFor_eq h
  obtain ⟨front, hfront⟩ := Path.exists_front r.outputDir
  have hopt : r.optDir = ⟨front ++ "opt"⟩ := hfront ⟨"opt"⟩ rfl
  have hrelative : (objectFor u).isAbsolute = false := by
    rw [hfor, Path.isAbsolute, String.toList_append]
    rfl
  rw [objectPath, hfront _ hrelative, hfor, hopt, String.append_assoc]

theorem objectPath_inj (hu : u.fileStem? = some name) (hv : v.fileStem? = some name')
    (h : r.objectPath u = r.objectPath v) : name = name' := by
  rw [objectPath_eq hu, objectPath_eq hv, Path.mk.injEq, String.append_right_inj,
    String.append_right_inj, String.append_left_inj] at h
  exact h

end Request

/-! ### Places -/

namespace Request

variable {r : Request} {u v : Path} {name name' : String}

/-- The objects of two units lead to different places in every file tree, unless a link is there in
place of one of them. -/
def Apart (r : Request) (u v : Path) : Prop :=
  ∀ (t : FileTree) (cwd l : Location), t.locate cwd (r.objectPath u) = .ok l →
    t.locate cwd (r.objectPath v) = .ok l →
    ∃ d target, t.locate cwd r.optDir = .ok d ∧
      (t.entryAt? (d ++ [objectName u ++ ".o"]) = some (.link target) ∨
        t.entryAt? (d ++ [objectName v ++ ".o"]) = some (.link target))

/-- In every file tree the object of a unit with a last name lies right in the directory for
objects, unless a link is there in its place. -/
theorem exists_optDir_of_locate {t : FileTree} {cwd l : Location} (hu : u.fileStem? = some name)
    (hl : t.locate cwd (r.objectPath u) = .ok l) :
    ∃ d, t.locate cwd r.optDir = .ok d ∧
      (l = d ++ [name ++ ".o"] ∨
        ∃ target, t.entryAt? (d ++ [name ++ ".o"]) = some (.link target)) := by
  obtain ⟨hstem, hslash⟩ := Path.fileStem?_spec hu
  rw [objectPath_eq hu] at hl
  refine FileTree.locate_below ?_ ?_ ?_ ?_ hl
  · rw [String.toList_append, List.mem_append]
    simpa using hslash
  · -- the name ends in two characters, and the second is no dot
    have hne : ∀ cs : List Char, cs ++ ['.', 'o'] ≠ ['.'] := by
      intro cs h
      simpa using congrArg List.getLast? h
    simp [Path.isTrivial, hne]
  · intro h
    have hlast := congrArg (fun s : String => s.toList.getLast?) h
    simp at hlast
  · exact r.outputDir.text_join_ne (by decide)

/-- **Objects of different names lead to different places.** -/
theorem objects_apart (hu : u.fileStem? = some name) (hv : v.fileStem? = some name')
    (hne : name ≠ name') : r.Apart u v := by
  intro t cwd l hl hl'
  rw [objectName_of_fileStem? hu, objectName_of_fileStem? hv]
  obtain ⟨d, hd, hplace⟩ := exists_optDir_of_locate hu hl
  obtain ⟨d', hd', hplace'⟩ := exists_optDir_of_locate hv hl'
  obtain rfl : d = d' := Except.ok.inj (hd.symm.trans hd')
  rcases hplace with rfl | ⟨target, hlink⟩
  · rcases hplace' with heq | ⟨target, hlink⟩
    · have hnames : name ++ ".o" = name' ++ ".o" := by simpa using heq
      exact absurd ((String.append_left_inj _).1 hnames) hne
    · exact ⟨d, target, hd, .inr hlink⟩
  · exact ⟨d, target, hd, .inl hlink⟩

end Request

/-! ### Batches of any kind -/

/-- What stands in the slots of some units, as far as there is anything, stands in their order. -/
theorem filterMap_sublist {α β : Type} (f : α → Option β) : ∀ {slots : List α} {all : List β},
    slots.length ≤ all.length →
    (∀ (n : Nat) (slot : α) (x : β), slots[n]? = some slot → f slot = some x → all[n]? = some x) →
    (slots.filterMap f).Sublist all := by
  intro slots
  induction slots with
  | nil => intro all _ _; exact List.nil_sublist all
  | cons slot rest ih =>
    intro all hlength h
    obtain ⟨y, ys, rfl⟩ :=
      List.exists_cons_of_length_pos (Nat.lt_of_lt_of_le (Nat.succ_pos _) hlength)
    have hrest : (rest.filterMap f).Sublist ys :=
      ih (Nat.le_of_succ_le_succ hlength) fun n slot x hslot hx => h (n + 1) slot x hslot hx
    rcases hf : f slot with _ | x
    · rw [List.filterMap_cons_none hf]
      exact hrest.cons y
    · rw [List.filterMap_cons_some hf]
      obtain rfl : y = x := Option.some.inj (h 0 slot x rfl hf)
      exact hrest.cons_cons y

namespace Builder

variable {σ : Type} {b : Builder σ} {r : Request} {units : List Path}
  {st st' : BuildState (List Call × σ)}

/-- What is true of every batch, for any tools, any number of workers and any order of their
steps. -/
structure Lowered (b : Builder σ) (r : Request) (units : List Path)
    (st : BuildState (List Call × σ)) (attempts : List Attempt) (report : LoweringReport)
    (st' : BuildState (List Call × σ)) : Prop
    extends b.Attempted r units st attempts report st' where
  /-- The call names the object and the unit. -/
  output_eq : ∀ a ∈ attempts, ∃ flags,
    a.call.1.arguments = flags ++ ["-o", (r.objectPath a.unit).text, a.unit.text]
  /-- Each unit is attempted once at most. -/
  once : ∃ tried : List Nat, tried.Nodup ∧
    attempts.map Attempt.unit = tried.filterMap fun n => units[n]?
  /-- The report lists objects of the units, in the order of the units. -/
  objects_sublist : report.objects.Sublist (units.map Request.objectFor)
  /-- There is one for each unit if the report is one of success. -/
  objects_eq : report.succeeded = true → report.objects = units.map Request.objectFor

/-- The object of a unit that was lowered is its own. -/
theorem object?_outcomeOf {i : Invocation} {unit object : Path}
    {answer : Except FileFault ToolOutput} (h : (outcomeOf i unit answer).object? = some object) :
    Request.objectFor unit = object := by
  rcases answer with fault | output
  · simp [outcomeOf, UnitOutcome.object?] at h
  · cases hs : output.succeeded with
    | false => simp [outcomeOf, hs, UnitOutcome.object?] at h
    | true => simpa [outcomeOf, hs, UnitOutcome.object?] using h

/-- What was recorded of some units are their own objects. -/
theorem objects_of_recorded {found : List UnitOutcome} {tried : List (Nat × UnitOutcome)}
    (h : Batch.Recorded (units.map (b.logging.lowerOne r)) st found tried st') :
    (found.filterMap UnitOutcome.object?).Sublist (units.map Request.objectFor) := by
  obtain ⟨slots, hlength, rfl, hslots⟩ := h.found_eq
  rw [List.filterMap_filterMap]
  refine filterMap_sublist _ (by simpa using hlength) ?_
  intro n slot object hslot hobject
  cases slot with
  | none => simp at hobject
  | some outcome =>
    replace hobject : outcome.object? = some object := hobject
    rcases hslots n outcome hslot with rfl | hmem
    · simp [UnitOutcome.object?] at hobject
    · obtain ⟨attempt, st₁, st₂, hattempt, hrun⟩ := h.made _ hmem
      rw [List.getElem?_map, Option.map_eq_some_iff] at hattempt
      obtain ⟨unit, hunit, rfl⟩ := hattempt
      rw [run_lowerOne] at hrun
      have houtcome : outcomeOf _ unit _ = outcome := Except.ok.inj (Prod.mk.inj hrun).1
      rw [List.getElem?_map, hunit, Option.map_some, object?_outcomeOf (houtcome ▸ hobject)]

/-- A batch that has a directory for its objects: what is found of its units, and the attempts at
them in the order in which they are made. The report is on what is found. -/
theorem exists_recorded (b : Builder σ) (r : Request) (units : List Path)
    (st : BuildState (List Call × σ))
    (hdir : (st.files.createDirectories b.cwd r.optDir).1 = .ok ()) :
    ∃ (found : List UnitOutcome) (tried : List (Nat × UnitOutcome)) (attempts : List Attempt)
        (st' : BuildState (List Call × σ)),
      Batch.Recorded (units.map (b.logging.lowerOne r))
        { st with files := (st.files.createDirectories b.cwd r.optDir).2 } found tried st' ∧
      (b.logging.lowerUnits r units).run st = (.ok (collect units.length found).1,
        { st' with sink := (collect units.length found).2.foldl Sink.emit st'.sink }) ∧
      attempts.map Attempt.unit = (tried.filterMap fun e => units[e.1]?) ∧
      tried.map Prod.snd = attempts.map Attempt.outcome ∧
      b.Makes r { st with files := (st.files.createDirectories b.cwd r.optDir).2 } attempts
        st' := by
  have hmake := Step.run_createDirectories b.cwd r.optDir st
  rw [hdir] at hmake
  obtain ⟨found, tried, st', hbatch, hrecorded⟩ := run_runBatch_recorded
    (answers_map_lowerOne b.logging r units) b.logging
    { st with files := (st.files.createDirectories b.cwd r.optDir).2 }
  have hlower := run_lowerBatch (b := b.logging) hmake hbatch
  rw [List.length_map] at hlower
  have htrail : (tried.filterMap fun e => (units.map (b.logging.lowerOne r))[e.1]?) =
      (tried.filterMap fun e => units[e.1]?).map (b.logging.lowerOne r) := by
    rw [List.map_filterMap]
    simp only [List.getElem?_map]
  obtain ⟨attempts, hunits, houtcomes, hmakes⟩ := attempts_of_trail hrecorded.trail htrail
  exact ⟨found, tried, attempts, st', hrecorded, hlower, hunits, houtcomes, hmakes⟩

/-- **Every batch** that has a directory for its objects is of this kind. -/
theorem exists_lowered (b : Builder σ) (r : Request) (units : List Path)
    (st : BuildState (List Call × σ))
    (hdir : (st.files.createDirectories b.cwd r.optDir).1 = .ok ()) :
    ∃ attempts report st', b.Lowered r units st attempts report st' := by
  obtain ⟨found, tried, attempts, st', hrecorded, hlower, hunits, -, hmakes⟩ :=
    exists_recorded b r units st hdir
  obtain ⟨hsub, hlength⟩ := objects_collect units.length found
  have hobjects := hsub.trans (objects_of_recorded hrecorded)
  refine ⟨attempts, (collect units.length found).1, { st' with
    sink := (collect units.length found).2.foldl Sink.emit st'.sink }, ?_⟩
  constructor
  case toAttempted => exact .of_run hlower hmakes
  case output_eq =>
    intro a ha
    rw [hmakes.call_eq a ha]
    exact ⟨_, List.append_cons _ _ _⟩
  case once =>
    refine ⟨tried.map Prod.fst, hrecorded.nodup, ?_⟩
    rw [hunits, List.filterMap_map]
    rfl
  case objects_sublist => exact hobjects
  case objects_eq =>
    intro hs
    refine hobjects.eq_of_length ?_
    rw [hlength hs, List.length_map]

variable {attempts : List Attempt} {report : LoweringReport}

theorem Lowered.mem_units (h : b.Lowered r units st attempts report st') :
    ∀ a ∈ attempts, a.unit ∈ units := by
  intro a ha
  obtain ⟨tried, -, hunits⟩ := h.once
  have hmem : a.unit ∈ tried.filterMap fun n => units[n]? := hunits ▸ List.mem_map_of_mem ha
  obtain ⟨n, -, hn⟩ := List.mem_filterMap.1 hmem
  exact List.mem_of_getElem? hn

/-- Attempts at units of different names are at units of different names, since none is made
twice. -/
theorem Lowered.pairwise_objectName (h : b.Lowered r units st attempts report st')
    (hnames : (units.map Request.objectName).Nodup) :
    attempts.Pairwise fun a a' => Request.objectName a.unit ≠ Request.objectName a'.unit := by
  obtain ⟨tried, hnodup, hunits⟩ := h.once
  have hpairwise : (tried.filterMap fun n => units[n]?).Pairwise fun u v =>
      Request.objectName u ≠ Request.objectName v := by
    rw [List.pairwise_filterMap]
    refine hnodup.imp ?_
    intro m n hne u hu v hv heq
    have hm : (units.map Request.objectName)[m]? = some (Request.objectName u) := by
      rw [List.getElem?_map, hu, Option.map_some]
    have hn : (units.map Request.objectName)[n]? = some (Request.objectName u) := by
      rw [List.getElem?_map, hv, Option.map_some, heq]
    have hlt := (List.getElem?_eq_some_iff.1 hm).1
    exact hne ((List.getElem?_inj hlt hnames).1 (hm.trans hn.symm))
  rw [← hunits, List.pairwise_map] at hpairwise
  exact hpairwise

/-- Attempts at units of different last names have objects of different paths, and these lead to
different places unless a link is there in place of one of them. -/
theorem Lowered.apart (h : b.Lowered r units st attempts report st')
    (hnames : (units.map Request.objectName).Nodup)
    (hstems : ∀ unit ∈ units, unit.fileStem? ≠ none) :
    (attempts.map fun a => r.objectPath a.unit).Nodup ∧
      attempts.Pairwise fun a a' => r.Apart a.unit a'.unit := by
  have hstem : ∀ a ∈ attempts, a.unit.fileStem? = some (Request.objectName a.unit) := by
    intro a ha
    obtain ⟨name, hname⟩ := Option.ne_none_iff_exists'.1 (hstems a.unit (h.mem_units a ha))
    rw [Request.objectName_of_fileStem? hname, hname]
  have hpairwise := h.pairwise_objectName hnames
  constructor
  · rw [List.Nodup, List.pairwise_map]
    refine hpairwise.imp_of_mem ?_
    intro a a' ha ha' hne heq
    exact hne (Request.objectPath_inj (hstem a ha) (hstem a' ha') heq)
  · refine hpairwise.imp_of_mem ?_
    intro a a' ha ha' hne
    exact Request.objects_apart (hstem a ha) (hstem a' ha') hne

/-- Two workers that take turns. -/
def pairedBuilder : Builder Unit where
  runner.run _ files tools := (.ok { code := some 0 }, files, tools)
  toolchain := ⟨⟨"/debase"⟩, ⟨"/llc"⟩⟩
  lowering := { jobs := 2, schedule := [1, 0, 1, 0, 1, 0, 1, 0] }
  cwd := []

end Builder

end ModuleBuild
