import ModuleBuild.Build.Debasing
import ModuleBuild.Proofs.Path.Absolute
import ModuleBuild.Proofs.Path.Spelled
import ModuleBuild.Proofs.Text.Lines

/-!
# What the configuration texts say

The flags and the input files of a request go into its fingerprint as two texts, with semicolons
between the items. Items that are not empty and hold no semicolon are read back from such a text, so
the texts of two requests of that kind are the same only if their flags and files are, as far as the
files can be told by what is shown of them. Requests that are made from options are of that kind
unless the working directory has a semicolon in its name, or bytes that spell no characters.

## Semicolons in the working directory

The options are split at semicolons before paths are made absolute, so no flag and no file holds one
when it is split off. A relative file then gets the working directory in front of it, and with it
the semicolons of its name; and where the files are put into one text again these look like the ends
of files. `Request.config_not_faithful` has two requests that the texts do not tell apart.

## Working directories that spell no text

The files go into their text as they are shown, and bytes that spell no character are shown alike.
So the same relative file in two working directories may have the same text, too. The options
themselves are texts and bring in no such bytes.

## Main definitions

* `IsItem` — a text that can stand between semicolons
* `Request.Plain` — the flags and the input files are such texts

## Main results

* `splitList_intercalate` — items are read back
* `Request.Plain.config_inj` — the configuration texts give the flags and the input files
* `Request.plain_ofOptions` — requests made from options are plain
* `Request.config_faithful` — what requests with the same configuration texts have in common
* `Request.config_not_faithful` — not always their input files, for either reason
-/

namespace ModuleBuild

/-! ### Items -/

/-- A text that can stand between semicolons: it is not empty and holds none. -/
def IsItem (s : String) : Prop := s ≠ "" ∧ ';' ∉ s.toList

theorem isItem_of_mem_splitList {s text : String} (h : s ∈ splitList text) : IsItem s := by
  obtain ⟨part, hpart, rfl⟩ := List.mem_map.1 h
  obtain ⟨hpart, hne⟩ := List.mem_filter.1 hpart
  refine ⟨?_, ?_⟩
  · intro hempty
    have := congrArg String.toList hempty
    simp_all
  · intro hmem
    rw [String.toList_ofList] at hmem
    exact (mem_of_mem_splitOn hpart hmem).1 rfl

/-- **Items are read back.** -/
theorem splitList_intercalate {items : List String} (h : ∀ s ∈ items, IsItem s) :
    splitList (String.intercalate ";" items) = items := by
  by_cases hnil : items = []
  · subst hnil
    rfl
  have hsep : ∀ part ∈ items.map String.toList, ';' ∉ part := by
    intro part hpart
    obtain ⟨s, hs, rfl⟩ := List.mem_map.1 hpart
    exact (h s hs).2
  have hne : ∀ part ∈ items.map String.toList, decide (part ≠ []) = true := by
    intro part hpart
    obtain ⟨s, hs, rfl⟩ := List.mem_map.1 hpart
    have := (h s hs).1
    simpa using this
  have htoList : (String.intercalate ";" items).toList =
      [';'].intercalate (items.map String.toList) := String.toList_intercalate
  rw [splitList, htoList, List.splitOn_intercalate ';' hsep (by simpa using hnil),
    List.filter_eq_self.2 hne, List.map_map]
  simp

/-! ### Paths without semicolons -/

namespace Path

/-- There is no semicolon in the path. -/
def Unsplit (p : Path) : Prop := ';' ∉ p.text.toList

variable {p q base cwd : Path} {part : Component}

theorem Unsplit.join (hb : base.Unsplit) (hp : p.Unsplit) : (base.join p).Unsplit := by
  unfold Path.join
  split
  · exact hp
  · unfold Unsplit at *
    split
    · simp [hb, hp]
    · simp [hb, hp]

theorem Unsplit.component? {piece : List Char} (h : ';' ∉ piece)
    (hpart : component? piece = some part) : Unsplit ⟨part.text⟩ := by
  rw [Unsplit, toList_text_of_component? hpart]
  exact h

theorem Unsplit.components (h : p.Unsplit) (hpart : part ∈ p.components) :
    Unsplit ⟨part.text⟩ := by
  rcases mem_components hpart with rfl | rfl | ⟨piece, hpiece, hsome⟩
  · simp [Unsplit, Component.text]
  · simp [Unsplit, Component.text]
  · exact .component? (fun hmem => h (mem_of_mem_splitOn hpiece hmem).2) hsome

theorem Unsplit.extend {parts : List Component} (hb : base.Unsplit)
    (hparts : ∀ part ∈ parts, Unsplit ⟨part.text⟩) : (base.extend parts).Unsplit := by
  induction parts generalizing base with
  | nil => exact hb
  | cons part parts ih =>
    obtain ⟨hpart, hparts⟩ := List.forall_mem_cons.1 hparts
    rw [extend_cons]
    exact ih (hb.join hpart) hparts

/-- The path seen from the root has no new semicolons. -/
theorem Unsplit.absolute? (hp : p.Unsplit) (hcwd : cwd.Unsplit) (h : p.absolute? cwd = some q) :
    q.Unsplit := by
  obtain rfl := Option.some.inj ((absolute?_eq (text_ne_of_absolute? h) cwd).symm.trans h)
  have hsteps : ∀ part ∈ p.steps, Unsplit ⟨part.text⟩ :=
    fun part hmem => hp.components (List.mem_filter.1 (List.mem_filter.1 hmem).1).1
  have horigin : (p.origin cwd).Unsplit := by
    unfold origin
    split
    · simp [Unsplit]
    split
    · simp [Unsplit]
    · exact hcwd
  have hextend := horigin.extend hsteps
  unfold ended
  split
  · exact hextend.join (by simp [Unsplit])
  · exact hextend

/-- A path that spells a text without semicolons is shown as one. -/
theorem IsText.isItem_shown (h : p.IsText) (hitem : IsItem p.text) : IsItem p.shown := by
  obtain ⟨s, rfl⟩ := isText_iff.1 h
  obtain ⟨hne, hno⟩ := hitem
  rw [shown_ofText]
  refine ⟨?_, ?_⟩
  · rintro rfl
    exact hne (Octets.ofText_of_ascii (by decide))
  · exact fun hmem => hno ((Octets.mem_toList_ofText (by decide)).2 hmem)

end Path

/-! ### Requests -/

namespace Request

/-- The flags and the input files can stand between semicolons, and the files spell texts. -/
structure Plain (r : Request) : Prop where
  /-- The flags can. -/
  passthrough : ∀ s ∈ r.passthrough, IsItem s
  /-- The input files can. -/
  files : ∀ p ∈ r.files, IsItem p.text
  /-- The input files spell texts. -/
  spelled : ∀ p ∈ r.files, p.IsText

/-- The files that spell texts are those that are spelled by what is shown of them. -/
theorem map_ofText_shown {files : List Path} (h : ∀ p ∈ files, p.IsText) :
    (files.map Path.shown).map Path.ofText = files := by
  rw [List.map_map]
  refine (List.map_congr_left fun p hp => ?_).trans (List.map_id _)
  exact (h p hp).ofText_shown

/-- **The configuration texts give the flags and the input files.** -/
theorem Plain.config_inj {r r' : Request} (hr : r.Plain) (hr' : r'.Plain)
    (h : r.configStrings = r'.configStrings) :
    r.passthrough = r'.passthrough ∧ r.files = r'.files := by
  simp only [configStrings, List.cons.injEq, and_true] at h
  obtain ⟨-, hflags, hfiles⟩ := h
  have htexts : ∀ {q : Request}, q.Plain → ∀ s ∈ q.files.map Path.shown, IsItem s := by
    intro q hq s hs
    obtain ⟨p, hp, rfl⟩ := List.mem_map.1 hs
    exact (hq.spelled p hp).isItem_shown (hq.files p hp)
  constructor
  · rw [← splitList_intercalate hr.passthrough, hflags, splitList_intercalate hr'.passthrough]
  · rw [← map_ofText_shown hr.spelled, ← splitList_intercalate (htexts hr), hfiles,
      splitList_intercalate (htexts hr'), map_ofText_shown hr'.spelled]

theorem absolute?_of_place {cwd p q : Path} (h : place cwd p = .ok q) :
    p.absolute? cwd = some q := by
  unfold place at h
  split at h
  · rename_i q' hq
    rw [hq, Except.ok.inj h]
  · simp at h

/-- What is made absolute has a path that is not empty. -/
theorem text_ne_of_place {cwd p q : Path} (habs : cwd.isAbsolute = true)
    (h : place cwd p = .ok q) : q.text ≠ "" :=
  Path.text_ne_of_isAbsolute (Path.isAbsolute_of_absolute? habs (absolute?_of_place h))

/-- Items that are made one by one from others have what each of them has. -/
theorem forall_of_mapM_eq_ok {α β ε : Type} {f : α → Except ε β} {P : β → Prop} {xs : List α}
    {ys : List β} (hf : ∀ x ∈ xs, ∀ y, f x = .ok y → P y) (h : xs.mapM f = .ok ys) :
    ∀ y ∈ ys, P y := by
  induction xs generalizing ys with
  | nil =>
    obtain rfl := Except.ok.inj h
    simp
  | cons x xs ih =>
    rw [List.mapM_cons] at h
    rcases hx : f x with e | y
    · simp [hx, bind, Except.bind] at h
    rcases hxs : xs.mapM f with e | rest
    · simp [hx, hxs, bind, Except.bind] at h
    simp only [hx, hxs, bind, Except.bind, pure, Except.pure, Except.ok.injEq] at h
    subst h
    intro z hz
    rcases List.mem_cons.1 hz with rfl | hz
    · exact hf x List.mem_cons_self _ hx
    · exact ih (fun x hmem => hf x (List.mem_cons_of_mem _ hmem)) hxs z hz

/-- Where the flags and the input files of a request come from. -/
theorem lists_of_ofOptions {cwd : Path} {o : RequestOptions} {r : Request}
    (h : ofOptions cwd o = .ok r) : r.passthrough = splitList o.passthrough ∧
      (o.files.flatMap splitList).mapM (fun file => place cwd (.ofText file)) = .ok r.files := by
  simp only [ofOptions, bind, Except.bind, throw, throwThe, MonadExceptOf.throw, pure,
    Except.pure] at h
  rcases hfiles : (o.files.flatMap splitList).mapM (fun file => place cwd (.ofText file)) with
    e | files
  · simp only [hfiles] at h
    repeat' split at h
    all_goals simp at h
  · simp only [hfiles] at h
    -- Only the cases without an error are left, one for each way to the output directory.
    repeat' split at h
    all_goals simp only [Except.ok.injEq, reduceCtorEq] at h
    all_goals exact h ▸ ⟨rfl, rfl⟩

/-! ### Requests made from options -/

section

variable {cwd cwd' : Path} {o o' : RequestOptions} {r r' : Request}

/-- The flags of a request can stand between semicolons. -/
theorem isItem_passthrough (h : ofOptions cwd o = .ok r) : ∀ s ∈ r.passthrough, IsItem s :=
  fun _ hs => isItem_of_mem_splitList ((lists_of_ofOptions h).1 ▸ hs)

theorem text_ne_of_mem_files (habs : cwd.isAbsolute = true) (h : ofOptions cwd o = .ok r) :
    ∀ p ∈ r.files, p.text ≠ "" :=
  forall_of_mapM_eq_ok (fun _ _ _ => text_ne_of_place habs) (lists_of_ofOptions h).2

/-- There is no semicolon in the paths of its input files unless the working directory has one. -/
theorem unsplit_files (hcwd : cwd.Unsplit) (h : ofOptions cwd o = .ok r) :
    ∀ p ∈ r.files, p.Unsplit := by
  refine forall_of_mapM_eq_ok (fun file hfile p hp => ?_) (lists_of_ofOptions h).2
  obtain ⟨text, -, hfile⟩ := List.mem_flatMap.1 hfile
  have hunsplit : (Path.ofText file).Unsplit := fun hmem =>
    (isItem_of_mem_splitList hfile).2 ((Octets.mem_toList_ofText (by decide)).1 hmem)
  exact hunsplit.absolute? hcwd (absolute?_of_place hp)

/-- Its input files spell texts if the working directory does. -/
theorem isText_files (hspelled : cwd.IsText) (h : ofOptions cwd o = .ok r) :
    ∀ p ∈ r.files, p.IsText :=
  forall_of_mapM_eq_ok (fun file _ _ hp =>
      Path.IsText.absolute (Octets.isText_ofText file) hspelled (absolute?_of_place hp))
    (lists_of_ofOptions h).2

/-- A request is plain if the paths of its input files have no semicolons and spell texts. -/
theorem plain_of_files (habs : cwd.isAbsolute = true) (h : ofOptions cwd o = .ok r)
    (hunsplit : ∀ p ∈ r.files, p.Unsplit) (hspelled : ∀ p ∈ r.files, p.IsText) : r.Plain where
  passthrough := isItem_passthrough h
  files p hp := ⟨text_ne_of_mem_files habs h p hp, hunsplit p hp⟩
  spelled := hspelled

/-- **Requests made from options are plain**, unless the working directory has a semicolon in its
name or spells no text. -/
theorem plain_ofOptions (habs : cwd.isAbsolute = true) (hcwd : cwd.Unsplit)
    (hspelled : cwd.IsText) (h : ofOptions cwd o = .ok r) : r.Plain :=
  plain_of_files habs h (unsplit_files hcwd h) (isText_files hspelled h)

/-! ### Requests with the same configuration texts -/

/-- **What the configuration texts tell.** Requests with the same configuration texts have the same
frame-pointer policy and the same flags, wherever they were made. If the paths of their input files
have no semicolons and spell texts, as they do unless the name of the working directory is to blame,
then they have the same input files too, and the first tool is called with the same arguments but
for the target and the places of its work. -/
theorem config_faithful (habs : cwd.isAbsolute = true) (habs' : cwd'.isAbsolute = true)
    (h : ofOptions cwd o = .ok r) (h' : ofOptions cwd' o' = .ok r')
    (hconfig : r.configStrings = r'.configStrings) :
    r.framePointer = r'.framePointer ∧ r.passthrough = r'.passthrough ∧
      (cwd.Unsplit → ∀ p ∈ r.files, p.Unsplit) ∧ (cwd.IsText → ∀ p ∈ r.files, p.IsText) ∧
      ((∀ p ∈ r.files, p.Unsplit ∧ p.IsText) → (∀ p ∈ r'.files, p.Unsplit ∧ p.IsText) →
        r.files = r'.files ∧ ∀ (σ : Type) (b : Builder σ),
          (b.debaseInvocation r).arguments.drop 4 = (b.debaseInvocation r').arguments.drop 4) := by
  have hpolicy : r.framePointer.name = r'.framePointer.name := (List.cons.inj hconfig).1
  have htext : String.intercalate ";" r.passthrough = String.intercalate ";" r'.passthrough :=
    (List.cons.inj (List.cons.inj hconfig).2).1
  have hflags : r.passthrough = r'.passthrough := by
    rw [← splitList_intercalate (isItem_passthrough h), htext,
      splitList_intercalate (isItem_passthrough h')]
  refine ⟨FramePointer.name_inj hpolicy, hflags, fun hcwd => unsplit_files hcwd h,
    fun hspelled => isText_files hspelled h, ?_⟩
  intro hplain hplain'
  have hr : r.Plain :=
    plain_of_files habs h (fun p hp => (hplain p hp).1) fun p hp => (hplain p hp).2
  have hr' : r'.Plain :=
    plain_of_files habs' h' (fun p hp => (hplain' p hp).1) fun p hp => (hplain' p hp).2
  have hfiles : r.files = r'.files := (hr.config_inj hr' hconfig).2
  refine ⟨hfiles, fun σ b => ?_⟩
  have harguments : ∀ q : Request, (b.debaseInvocation q).arguments.drop 4 =
      policyFlags ++ q.passthrough.map Octets.ofText ++ q.files.map Path.text := fun _ => rfl
  rw [harguments, harguments, hflags, hfiles]

end

/-- Options for one module with the given input files, and the request that they make. -/
def optionsFor (files : List String) : RequestOptions :=
  { target := "app.bc", manifestName := "app.json", files }

@[inherit_doc optionsFor]
def requestIn (dir : String) (files : List Path) : Request where
  target := ⟨"app.bc"⟩
  outputDir := ⟨dir⟩
  profile := .debug
  framePointer := .all
  files := files
  passthrough := []
  manifestName := "app.json"
  publish := .response ⟨dir ++ "/app.rsp"⟩

/-- The same two files, once in one option and once in two with an empty piece between them. -/
theorem config_faithful_regrouped :
    ∃ r r', ofOptions ⟨"/w"⟩ (optionsFor ["a.dll;/in/b.dll"]) = .ok r ∧
      ofOptions ⟨"/w"⟩ (optionsFor ["./a.dll;", "/in//b.dll"]) = .ok r' ∧
      r.configStrings = r'.configStrings ∧ r.files = [⟨"/w/a.dll"⟩, ⟨"/in/b.dll"⟩] ∧
      r.framePointer = r'.framePointer ∧ r.passthrough = r'.passthrough ∧ r.files = r'.files := by
  have habs : Path.isAbsolute ⟨"/w"⟩ = true := by decide
  have hcwd : Path.Unsplit ⟨"/w"⟩ := by simp [Path.Unsplit]
  have hspelled : Path.IsText ⟨"/w"⟩ := Octets.isText_of_ascii (by decide)
  have h : ofOptions ⟨"/w"⟩ (optionsFor ["a.dll;/in/b.dll"]) =
      .ok (requestIn "/w" [⟨"/w/a.dll"⟩, ⟨"/in/b.dll"⟩]) := by rfl
  have h' : ofOptions ⟨"/w"⟩ (optionsFor ["./a.dll;", "/in//b.dll"]) =
      .ok (requestIn "/w" [⟨"/w/a.dll"⟩, ⟨"/in/b.dll"⟩]) := by rfl
  refine ⟨_, _, h, h', rfl, rfl, ?_⟩
  obtain ⟨hpolicy, hflags, hunsplit, htext, hsame⟩ := config_faithful habs habs h h' rfl
  obtain ⟨-, -, hunsplit', htext', -⟩ := config_faithful habs habs h' h rfl
  exact ⟨hpolicy, hflags, (hsame (fun p hp => ⟨hunsplit hcwd p hp, htext hspelled p hp⟩)
    fun p hp => ⟨hunsplit' hcwd p hp, htext' hspelled p hp⟩).1⟩

/-- **The configuration texts do not always tell the input files.** A file in a working directory
whose name holds a semicolon has the same text as two files. A file in a working directory without
any semicolon may have the same text as one in another, where their names spell no texts. -/
theorem config_not_faithful :
    (¬ ∀ (cwd : Path) (o o' : RequestOptions) (r r' : Request),
      cwd.isAbsolute = true → ofOptions cwd o = .ok r → ofOptions cwd o' = .ok r' →
      r.configStrings = r'.configStrings → r.files = r'.files) ∧
    ¬ ∀ (cwd cwd' : Path) (o : RequestOptions) (r r' : Request),
      cwd.isAbsolute = true → cwd'.isAbsolute = true → cwd.Unsplit → cwd'.Unsplit →
      ofOptions cwd o = .ok r → ofOptions cwd' o = .ok r' →
      r.configStrings = r'.configStrings → r.files = r'.files := by
  constructor
  · intro h
    have hsame := h ⟨"/a;/b"⟩ (optionsFor ["f"]) (optionsFor ["/a;/b/f"])
      (requestIn "/a;/b" [⟨"/a;/b/f"⟩]) (requestIn "/a;/b" [⟨"/a"⟩, ⟨"/b/f"⟩])
      (by decide) rfl rfl (by decide +kernel)
    exact absurd hsame (by decide +kernel)
  · intro h
    have hsame := h ⟨"/a\u00ff"⟩ ⟨"/a\u00fe"⟩ (optionsFor ["f"])
      (requestIn "/a\u00ff" [⟨"/a\u00ff/f"⟩]) (requestIn "/a\u00fe" [⟨"/a\u00fe/f"⟩])
      (by decide) (by decide) (by simp [Path.Unsplit]) (by simp [Path.Unsplit]) rfl rfl
      (by decide +kernel)
    exact absurd hsame (by decide +kernel)

end Request

end ModuleBuild
