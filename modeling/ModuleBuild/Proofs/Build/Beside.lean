import ModuleBuild.Proofs.Build.ObjectPlaces
import ModuleBuild.Proofs.Cache.FailOpen

/-!
# Files beside the target

Where no name is wished for, the response file is put into the output directory under the name of
the target, with another extension, and the fingerprint is put there under the whole name of the
target, with one more extension. So the two never share a path. The response file shares one with
the target if the target has that extension already and lies right in the output directory, and not
otherwise.

Two paths that differ may lead to one file. If they end in different names, then this takes a link
in the place of one of them.

## Main definitions

* `Request.listing` — the response file that lies beside the target
* `Request.IsListing` — the target has the name of a response file
* `Request.Beside` — how the response file lies to the target and to the fingerprint

## Main results

* `FileTree.exists_name_of_read` — what can be read is named by the end of its path
* `FileTree.exists_place_of_name` — a path leads to a place of its last name, unless it is a link
* `FileTree.apart_of_ne` — paths with different last names lead to different places
* `Request.beside` — how the response file lies if no name is wished for
-/

namespace ModuleBuild

/-! ### Last names -/

namespace Path

variable {p base : Path} {name : String}

/-- A name is neither trivial nor two dots. -/
theorem component?_eq_name (h : component? name.toList = some (.name name)) :
    isTrivial name.toList = false ∧ name.toList ≠ ['.', '.'] := by
  unfold component? at h
  split at h
  · simp at h
  rename_i htrivial
  split at h
  · simp at h
  rename_i hdots
  exact ⟨by simpa using htrivial, by simpa using hdots⟩

/-- The name that a path ends in is its last name. -/
theorem fileName?_of_getLast? (hlast : p.pieces.getLast? = some name.toList)
    (hname : component? name.toList = some (.name name)) : p.fileName? = some name := by
  obtain ⟨init, hinit⟩ := List.getLast?_eq_some_iff.1 hlast
  have hcomponents : p.components.getLast? = some (.name name) := by
    unfold components
    rw [hinit]
    rcases init with _ | ⟨first, init⟩
    · have hdot : name.toList ≠ ['.'] := fun h => by simp [h, component?, isTrivial] at hname
      have hrelative : p.isAbsolute = false := by
        rcases habs : p.isAbsolute with _ | _
        · rfl
        -- a path that begins with a slash begins with an empty text
        obtain ⟨rest, hrest⟩ := List.head?_eq_some_iff.1 (by simpa [isAbsolute] using habs)
        have hpieces : p.pieces = [] :: rest.splitOn '/' := by
          rw [pieces, hrest]
          exact List.splitOn_append_cons_self [] rest
        obtain ⟨hnil, -⟩ := List.cons.inj (hpieces.symm.trans hinit)
        simp [← hnil, component?, isTrivial] at hname
      simp [hrelative, hdot, hname]
    · simp only [List.cons_append, List.filterMap_append, List.filterMap_cons_some hname,
        List.filterMap_nil]
      split
      · rw [← List.cons_append, List.getLast?_concat]
      · split
        · rw [← List.cons_append, List.getLast?_concat]
        · rw [← List.append_assoc, List.getLast?_concat]
  rw [fileName?, hcomponents]

theorem nameOr_of_fileName? (h : p.fileName? = some name) (other : String) :
    p.nameOr other = stem name := by
  rw [nameOr, fileStem?, h, Option.map_some, Option.getD_some]

/-- The last of the texts between slashes that stand for anything is the last name, if it is a
name. -/
theorem fileName?_of_filterMap (hrelative : p.isAbsolute = false)
    (h : (p.pieces.filterMap component?).getLast? = some (.name name)) :
    p.fileName? = some name := by
  have hcomponents : p.components.getLast? = some (.name name) := by
    unfold components
    rcases hpieces : p.pieces with _ | ⟨first, rest⟩
    · exact absurd hpieces (List.splitOn_ne_nil _ _)
    rw [hpieces] at h
    simp only [hrelative, Bool.false_eq_true, if_false]
    split
    · -- the dot at the front stands for nothing here
      rename_i hdot
      have hfirst : component? first = none := by
        rw [show first = ['.'] by simpa using hdot]
        rfl
      rw [List.filterMap_cons_none hfirst] at h
      rw [List.getLast?_cons, h, Option.getD_some]
    · rcases hfirst : component? first with _ | c
      · rw [List.filterMap_cons_none hfirst] at h
        exact h
      · rw [List.filterMap_cons_some hfirst] at h
        exact h
  rw [fileName?, hcomponents]

/-- A name in a directory ends its path. -/
theorem getLast?_pieces_name (base : Path) (hslash : '/' ∉ name.toList) :
    (base.join ⟨name⟩).pieces.getLast? = some name.toList := by
  rw [getLast?_pieces_join, pieces, List.splitOn_eq_singleton hslash]
  rfl

/-- A name in a directory is one component more. -/
theorem components_join_name (hbase : base.isAbsolute = true) (hslash : '/' ∉ name.toList)
    (hname : component? name.toList = some (.name name)) :
    (base.join ⟨name⟩).components = base.components ++ [.name name] := by
  have hstep : Component.IsStep (.name name) := ⟨hslash, hname⟩
  have hjoin := components_join_step hbase hstep
  exact hjoin

end Path

/-! ### Places -/

namespace FileTree

variable {t : FileTree} {cwd l : Location} {p q : Path} {name name' : String} {content : Bytes}

open ModuleBuild.Path (component?)

theorem enter_of_name (l : Location) (h : component? name.toList = some (.name name)) :
    enter l name.toList = l ++ [name] := by
  obtain ⟨htrivial, hdots⟩ := Path.component?_eq_name h
  rw [enter, htrivial, if_neg Bool.false_ne_true, if_neg hdots, String.ofList_toList]

/-- What can be read is no directory. -/
theorem exists_entryAt?_of_read (h : t.read cwd p = .ok content) :
    ∃ l e, t.locate cwd p = .ok l ∧ t.entryAt? l = some e ∧ e ≠ .directory := by
  rcases hentry : t.entry cwd p with fault | ⟨l, e⟩
  · simp [read, hentry, bind, Except.bind] at h
  · obtain ⟨hl, he⟩ := entry_eq_ok.1 hentry
    refine ⟨l, e, hl, he, ?_⟩
    rintro rfl
    simp [read, hentry, bind, Except.bind, throw, throwThe, MonadExceptOf.throw] at h

/-- **What can be read is named by the end of its path.** A path that ends in a slash or in dots
leads to a directory. -/
theorem exists_name_of_read (h : t.read cwd p = .ok content) :
    ∃ name, p.pieces.getLast? = some name.toList ∧
      component? name.toList = some (.name name) := by
  obtain ⟨l, e, hl, he, hdirectory⟩ := exists_entryAt?_of_read h
  have hne : p.pieces ≠ [] := List.splitOn_ne_nil _ _
  obtain ⟨last, hlast⟩ := Option.isSome_iff_exists.1 (List.getLast?_isSome.2 hne)
  obtain ⟨init, hinit⟩ := List.getLast?_eq_some_iff.1 hlast
  unfold locate at hl
  split at hl
  · simp at hl
  rw [hinit] at hl
  obtain ⟨d, links, -, hlast'⟩ := walk_append hl
  obtain ⟨hd, hplace⟩ := walk_singleton hlast'
  -- no dots and no slash lead out of a directory to anything but a directory
  have hstay : ∀ m, enter d last = m → t.entryAt? m = some .directory → False := by
    rintro m hm hdir
    rcases hplace with rfl | ⟨target, hlink⟩
    · rw [hm, hdir] at he
      exact hdirectory (Option.some.inj he).symm
    · rw [hm, hdir] at hlink
      simp at hlink
  refine ⟨String.ofList last, by rw [String.toList_ofList, hlast], ?_⟩
  rw [String.toList_ofList, component?]
  split
  · rename_i htrivial
    exact (hstay d (by rw [enter, if_pos htrivial]) hd).elim
  rename_i htrivial
  split
  · rename_i hdots
    refine (hstay d.dropLast ?_ ?_).elim
    · rw [enter, if_neg htrivial, if_pos (by simpa using hdots)]
    · exact isDirectoryAt_iff.1 (isDirectoryAt_dropLast hd)
  · rfl

/-- **A path leads to a place of its last name**, unless it is the path of a link. -/
theorem exists_place_of_name (hlast : p.pieces.getLast? = some name.toList)
    (hname : component? name.toList = some (.name name)) (hlink : t.isLink cwd p = false)
    (hl : t.locate cwd p = .ok l) : ∃ d, l = d ++ [name] := by
  obtain ⟨init, hinit⟩ := List.getLast?_eq_some_iff.1 hlast
  obtain ⟨htrivial, hdots⟩ := Path.component?_eq_name hname
  unfold locate at hl
  split at hl
  · simp at hl
  rename_i hrefusal
  rw [hinit] at hl
  obtain ⟨d, links, hd, hlast'⟩ := walk_append hl
  obtain ⟨hdirectory, hplace⟩ := walk_singleton hlast'
  rw [enter_of_name d hname] at hplace
  refine ⟨d, hplace.resolve_right ?_⟩
  rintro ⟨target, htarget⟩
  -- then the path is that of the link
  have hshort : isTooLong name.toList = false := by
    rcases hlong : isTooLong name.toList with _ | _
    · rfl
    have hwalk : ∃ follow, walkWith follow t d [name.toList] = .ok l := by
      cases links with
      | zero => exact ⟨_, hlast'⟩
      | succ links => exact ⟨_, hlast'⟩
    obtain ⟨follow, hwalk⟩ := hwalk
    simp [walkWith, hdirectory, hlong] at hwalk
  have hself : t.locateSelf cwd p = .ok (d ++ [name]) := by
    rw [locateSelf, hrefusal, hlast]
    dsimp only
    rw [if_neg (by simp [htrivial, hdots]), hinit, List.dropLast_concat, hd]
    simp [walkWith, hdirectory, hshort, enter_of_name d hname, htarget]
  simp [isLink, hself, htarget] at hlink

/-- **Paths with different last names lead to different places**, unless one of them is the path of
a link. -/
theorem apart_of_ne (hne : name ≠ name') (hp : p.pieces.getLast? = some name.toList)
    (hpname : component? name.toList = some (.name name))
    (hq : q.pieces.getLast? = some name'.toList)
    (hqname : component? name'.toList = some (.name name')) (hplink : t.isLink cwd p = false)
    (hqlink : t.isLink cwd q = false) : t.isSame cwd p q = false := by
  rcases hsame : t.isSame cwd p q with _ | _
  · rfl
  rw [isSame, Bool.and_eq_true, beq_iff_eq] at hsame
  obtain ⟨hsome, heq⟩ := hsame
  obtain ⟨l, hl⟩ := Option.isSome_iff_exists.1 hsome
  have hlocate : ∀ {a : Path}, t.placeOf? cwd a = some l → t.locate cwd a = .ok l := by
    intro a ha
    rcases hloc : t.locate cwd a with fault | m
    · simp [placeOf?, hloc, Except.toOption] at ha
    · rw [placeOf?, hloc, Option.filter_eq_some_iff] at ha
      rw [Option.some.inj ha.1]
  obtain ⟨d, rfl⟩ := exists_place_of_name hp hpname hplink (hlocate hl)
  obtain ⟨d', hd'⟩ := exists_place_of_name hq hqname hqlink (hlocate (heq ▸ hl))
  have hnames : name = name' := by simpa using congrArg List.getLast? hd'
  exact absurd hnames hne

end FileTree

/-! ### The files of a request -/

namespace Request

variable {r : Request} {name : String}

open ModuleBuild.Path (component?)

/-- The response file that lies beside the target and has its name. -/
def listing (r : Request) : Path := defaultResponse r.outputDir r.target

/-- The target has the name of a response file. -/
def IsListing (r : Request) : Prop :=
  ∃ name, r.target.fileName? = some name ∧ name = Path.stem name ++ ".rsp"

/-- The response file has a name, and it is put right into the output directory. -/
theorem listing_name (htext : r.target.IsText) :
    let name := r.target.nameOr "objects" ++ ".rsp"
    r.listing = r.outputDir.join ⟨name⟩ ∧ '/' ∉ name.toList ∧
      component? name.toList = some (.name name) ∧
      r.listing.pieces.getLast? = some name.toList := by
  intro name
  have hstem : '/' ∉ (r.target.nameOr "objects").toList := by
    rw [Path.nameOr]
    rcases hname : r.target.fileStem? with _ | stem
    · decide
    · exact (Path.fileStem?_spec hname).2
  have hslash : '/' ∉ name.toList := by simpa [name] using hstem
  have hlast : name.toList.getLast? = some 'p' := by simp [name]
  have hlisting : r.listing = r.outputDir.join ⟨name⟩ := by
    have hname : Octets.IsText (r.target.nameOr "objects") :=
      htext.nameOr (Octets.isText_of_ascii (by decide))
    rw [listing, defaultResponse, Path.ofText, hname.ofText_toText_append (by decide)]
  exact ⟨hlisting, hslash, Path.component?_of_getLast? hlast (by decide),
    hlisting ▸ Path.getLast?_pieces_name _ hslash⟩

/-- The file of the fingerprint has a name with an extension of its own. -/
theorem sidecar_name (htext : r.target.IsText) :
    ∃ name, (Builder.sidecar r).path.pieces.getLast? = some name.toList ∧
      name.toList.getLast? = some '3' ∧ component? name.toList = some (.name name) ∧
      ∀ whole, r.target.fileName? = some whole → name = whole ++ ".xxh3" := by
  have hpath : (Builder.sidecar r).path.pieces.getLast? =
      (⟨r.target.fileName?.getD r.target.text ++ ".xxh3"⟩ : Path).pieces.getLast? := by
    have hname : Octets.IsText (r.target.fileName?.getD r.target.text) := by
      rcases hwhole : r.target.fileName? with _ | whole
      · exact htext
      · exact htext.fileName hwhole
    rw [Builder.sidecar, Sidecar.forTarget, Path.ofText, hname.ofText_toText_append (by decide),
      Path.getLast?_pieces_join]
  rcases hwhole : r.target.fileName? with _ | whole
  · have hplain : '/' ∉ ".xxh3".toList := by decide
    obtain ⟨front, hfront⟩ := Path.exists_getLast?_pieces r.target.text hplain
    have hlast : (front ++ ".xxh3").toList.getLast? = some '3' := by simp
    refine ⟨front ++ ".xxh3", ?_, hlast, Path.component?_of_getLast? hlast (by decide), by simp⟩
    rw [hpath, hwhole, Option.getD_none, hfront]
  · have hslash : '/' ∉ (whole ++ ".xxh3").toList := by
      unfold Path.fileName? at hwhole
      split at hwhole
      · rename_i s hs
        obtain rfl := Option.some.inj hwhole
        have hpiece := (Path.mem_pieces_of_name_mem (List.mem_of_getLast? hs)).1
        simpa using fun hmem => (mem_of_mem_splitOn hpiece hmem).1 rfl
      · simp at hwhole
    have hlast : (whole ++ ".xxh3").toList.getLast? = some '3' := by simp
    refine ⟨whole ++ ".xxh3", ?_, hlast, Path.component?_of_getLast? hlast (by decide), ?_⟩
    · rw [hpath, hwhole, Option.getD_some, Path.pieces, List.splitOn_eq_singleton hslash]
      rfl
    · rintro whole' hwhole'
      rw [Option.some.inj hwhole']

/-- The name of a target that can be read. -/
theorem target_name {t : FileTree} {cwd : Location} {content : Bytes}
    (h : t.read cwd r.targetPath = .ok content) :
    ∃ name, r.target.fileName? = some name ∧ r.targetPath.pieces.getLast? = some name.toList ∧
      component? name.toList = some (.name name) := by
  obtain ⟨name, hlast, hname⟩ := FileTree.exists_name_of_read h
  refine ⟨name, Path.fileName?_of_getLast? ?_ hname, hlast, hname⟩
  rw [← hlast, targetPath, Path.getLast?_pieces_join]

/-- How the response file lies to the target and to the fingerprint. -/
structure Beside (r : Request) : Prop where
  /-- It lists the objects. -/
  publish_eq : r.publish = .response r.listing
  /-- It lies right in the output directory. -/
  components_eq : r.listing.components =
    r.outputDir.components ++ [.name (r.target.nameOr "objects" ++ ".rsp")]
  /-- Its path is not that of the fingerprint. -/
  ne_sidecar : r.listing.components ≠ (Builder.sidecar r).path.components
  /-- Its path is that of the target exactly if the target has the name of a response file and lies
  right in the output directory. -/
  eq_target_iff : r.listing.components = r.targetPath.components ↔
    r.IsListing ∧ ∃ name, r.targetPath.components = r.outputDir.components ++ [.name name]
  /-- It leads elsewhere than the fingerprint, unless there is a link. -/
  apart_sidecar : ∀ (t : FileTree) (cwd : Location), t.isLink cwd (Builder.sidecar r).path = false →
    t.isLink cwd r.listing = false → t.isSame cwd (Builder.sidecar r).path r.listing = false
  /-- The target leads elsewhere than the fingerprint, unless there is a link; and elsewhere than
  the response file, unless there is a link or the target has the name of a response file. -/
  apart_target : ∀ {t₀ : FileTree} {cwd₀ : Location} {content : Bytes},
    t₀.read cwd₀ r.targetPath = .ok content → ∀ (t : FileTree) (cwd : Location),
      t.isLink cwd r.targetPath = false →
      (t.isLink cwd (Builder.sidecar r).path = false →
        t.isSame cwd r.targetPath (Builder.sidecar r).path = false) ∧
      (¬ r.IsListing → t.isLink cwd r.listing = false →
        t.isSame cwd r.targetPath r.listing = false)

/-- Where the target of a request comes from, and what is published. -/
theorem target_of_ofOptions {cwd : Path} {o : RequestOptions} (h : ofOptions cwd o = .ok r) :
    r.target = .ofText o.target ∧
      r.publish = publishMode r.outputDir (.ofText o.target) o.archive o.response := by
  simp only [ofOptions, bind, Except.bind, throw, throwThe, MonadExceptOf.throw, pure,
    Except.pure] at h
  -- only the cases without an error are left, one for each way to the output directory
  repeat' split at h
  all_goals simp only [Except.ok.injEq, reduceCtorEq] at h
  all_goals exact h ▸ ⟨rfl, rfl⟩

/-- A target is wished for by a text. -/
theorem isText_target {cwd : Path} {o : RequestOptions} (h : ofOptions cwd o = .ok r) :
    r.target.IsText :=
  (target_of_ofOptions h).1 ▸ Octets.isText_ofText _

/-- What is published if no name is wished for. -/
theorem publish_of_ofOptions {cwd : Path} {o : RequestOptions} (h : ofOptions cwd o = .ok r)
    (harchive : o.archive = none) (hresponse : o.response.getD "" = "") :
    r.publish = .response r.listing := by
  obtain ⟨htarget, hmode⟩ := target_of_ofOptions h
  rw [hmode, harchive, listing, htarget]
  rcases hname : o.response with _ | name
  · rfl
  · obtain rfl : name = "" := by simpa [hname] using hresponse
    simp [publishMode]

/-- When the response file has the path of the target. -/
theorem listing_eq_target_iff (hroot : r.outputDir.isAbsolute = true) (htext : r.target.IsText) :
    r.listing.components = r.targetPath.components ↔
      r.IsListing ∧ ∃ name, r.targetPath.components = r.outputDir.components ++ [.name name] := by
  obtain ⟨hlisting, hslash, hname, -⟩ := listing_name htext
  rw [hlisting, Path.components_join_name hroot hslash hname]
  constructor
  · intro heq
    have hwhole : r.target.fileName? = some (r.target.nameOr "objects" ++ ".rsp") := by
      rcases habs : r.target.isAbsolute with _ | _
      · rw [targetPath, Path.components_join hroot habs] at heq
        refine Path.fileName?_of_filterMap habs ?_
        rw [← List.append_cancel_left heq]
        rfl
      · rw [targetPath, Path.join_of_isAbsolute _ habs] at heq
        rw [Path.fileName?, ← heq, List.getLast?_concat]
    exact ⟨⟨_, hwhole, congrArg (· ++ ".rsp") (Path.nameOr_of_fileName? hwhole _)⟩, _, heq.symm⟩
  · rintro ⟨⟨name, hwhole, hext⟩, whole, hcomponents⟩
    have htarget := Path.fileName?_join hroot hwhole
    rw [← targetPath, Path.fileName?, hcomponents, List.getLast?_concat] at htarget
    obtain rfl : whole = name := Option.some.inj htarget
    rw [hcomponents, Path.nameOr_of_fileName? hwhole, ← hext]

/-- **How the response file lies** if no name is wished for. -/
theorem beside {cwd : Path} {o : RequestOptions} (habs : cwd.isAbsolute = true)
    (h : ofOptions cwd o = .ok r) (harchive : o.archive = none)
    (hresponse : o.response.getD "" = "") : r.Beside := by
  have hroot := isAbsolute_outputDir habs h
  have htext := isText_target h
  obtain ⟨hlisting, hslash, hname, hlast⟩ := listing_name htext
  obtain ⟨kept, hkeptLast, hend, hkept, hwhole⟩ := sidecar_name htext
  have hne : kept ≠ r.target.nameOr "objects" ++ ".rsp" := by
    rintro rfl
    simp at hend
  constructor
  case publish_eq => exact publish_of_ofOptions h harchive hresponse
  case components_eq => rw [hlisting, Path.components_join_name hroot hslash hname]
  case ne_sidecar =>
    intro heq
    have hfile := Path.fileName?_of_getLast? hlast hname
    rw [Path.fileName?, heq, ← Path.fileName?, Path.fileName?_of_getLast? hkeptLast hkept] at hfile
    exact hne (Option.some.inj hfile)
  case eq_target_iff => exact listing_eq_target_iff hroot htext
  case apart_sidecar =>
    exact fun t cwd hlink hlink' =>
      FileTree.apart_of_ne hne hkeptLast hkept hlast hname hlink hlink'
  case apart_target =>
    intro t₀ cwd₀ content hread t cwd hlink
    obtain ⟨target, htarget, htargetLast, htargetName⟩ := target_name hread
    constructor
    · intro hlink'
      refine FileTree.apart_of_ne ?_ htargetLast htargetName hkeptLast hkept hlink hlink'
      intro heq
      have hlength := congrArg String.length (heq.trans (hwhole target htarget))
      simp at hlength
    · intro hext hlink'
      refine FileTree.apart_of_ne ?_ htargetLast htargetName hlast hname hlink hlink'
      intro heq
      refine hext ⟨target, htarget, ?_⟩
      exact heq.trans (congrArg (· ++ ".rsp") (Path.nameOr_of_fileName? htarget _))

end Request

end ModuleBuild
