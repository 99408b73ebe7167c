import ModuleBuild.FileTree.Access

/-!
# What changes of a file tree show

A file that is written is read back, and nothing else is read differently. Directories that are
created leave everything in place that was there before. An attempt to write a file may leave it cut
off, where there is no room for all of the content.

## Main definitions

* `FileTree.Fillable` — a place where a file is or may be put
* `FileTree.Filled` — something has been put into such a place
* `FileTree.CutOff` — a file that was written only in part
* `FileTree.Extends` — what is there in one tree is there in another
* `FileTree.Spares` — a change that brings no new content to a location

## Main results

* `FileTree.walk_append`, `FileTree.walk_singleton` — a way in parts, and its last part
* `FileTree.locate_below` — where a path with one more name leads to
* `FileTree.Filled.walk` — what is put into such a place blocks no way
* `FileTree.eq_put_of_write` — writing a file puts it at the location that its path leads to
* `FileTree.read_of_write` — a file that is written is read back, unless it is a device
* `FileTree.entry_of_write_of_ne` — what lies elsewhere stays the same
* `FileTree.afterWrite_of_error` — an attempt that fails changes nothing or leaves a part
* `FileTree.entryAt?_createDirectories` — creating directories changes nothing that is there
* `FileTree.isDirectory_createDirectories` — a directory that was created is there
* `FileTree.spares_createDirectories`, `FileTree.spares_write` — what such changes leave alone
-/

namespace ModuleBuild

/-- What is found without a fault, in a form that can be decided. -/
theorem ok_of_toOption {ε α : Type} {found : Except ε α} {a : α} (h : found.toOption = some a) :
    found = .ok a := by
  cases found with
  | error e => simp [Except.toOption] at h
  | ok a' => simpa [Except.toOption] using h

namespace Node

/-- What is found lies in a directory. -/
theorem find?_dropLast {node : Node} : ∀ {l : Location} {entries : List (String × Node)},
    find? l entries = some node → (find? l.dropLast entries).map entry = some .directory := by
  intro l
  induction l with
  | nil => intro entries _; simp [entry]
  | cons name rest ih =>
    intro entries h
    cases rest with
    | nil => simp [entry]
    | cons next rest =>
      rw [List.dropLast_cons_of_ne_nil (by simp)]
      rcases hn : entries.lookup name with _ | leaf
      · simp [find?, hn] at h
      · rcases leaf with ⟨c, r⟩ | d | p | inner
        case directory =>
          rw [find?_cons_directory _ hn] at h ⊢
          exact ih h
        all_goals simp [find?, hn] at h

end Node

namespace FileTree

variable {t t' : FileTree} {cwd l m : Location} {p q : Path} {content : Bytes} {runnable : Bool}

theorem isDirectoryAt_dropLast {e : Entry} (h : t.entryAt? l = some e) :
    t.isDirectoryAt l.dropLast = true := by
  simp only [entryAt?, Option.map_eq_some_iff] at h
  obtain ⟨node, h, -⟩ := h
  exact isDirectoryAt_iff.2 (Node.find?_dropLast h)

/-- A place in a directory where there is a file or nothing. -/
structure Fillable (t : FileTree) (l : Location) : Prop where
  /-- The place lies in a directory. -/
  outer : t.isDirectoryAt l.dropLast = true
  /-- No directory is there. -/
  not_directory : t.entryAt? l ≠ some .directory
  /-- No link is there. -/
  not_link : ∀ target, t.entryAt? l ≠ some (.link target)

theorem Fillable.of_file (h : t.entryAt? l = some (.file content runnable)) : t.Fillable l where
  outer := isDirectoryAt_dropLast h
  not_directory := by simp [h]
  not_link := by simp [h]

theorem Fillable.of_none (h : t.entryAt? l = none) (hp : t.isDirectoryAt l.dropLast = true) :
    t.Fillable l where
  outer := hp
  not_directory := by simp [h]
  not_link := by simp [h]

theorem entryAt?_put_file (hl : t.Fillable l) (m : Location) :
    (t.put l (.file content runnable)).entryAt? m =
      if m = l then some (.file content runnable) else t.entryAt? m :=
  entryAt?_put rfl hl.not_directory hl.outer m

theorem entryAt?_put_file_self (hl : t.Fillable l) :
    (t.put l (.file content runnable)).entryAt? l = some (.file content runnable) := by
  rw [entryAt?_put_file hl, if_pos rfl]

/-- What is at a place other than that of a change stays the same. -/
theorem entryAt?_put_file_of_ne (hl : t.Fillable l) (h : m ≠ l) :
    (t.put l (.file content runnable)).entryAt? m = t.entryAt? m := by
  rw [entryAt?_put_file hl, if_neg h]

/-! ### Following a path in parts -/

/-- A way along some names and then others is a way along the first of them, and then one along the
others from where that has led to. -/
theorem walkWith_append {follow : Location → List (List Char) → Except FileFault Location}
    {later : List (List Char)}
    (hrest : ∀ m, walkWith follow t m later = .ok l → ∃ links, t.walk links m later = .ok l)
    (hfollow : ∀ m pieces, follow m (pieces ++ later) = .ok l →
      ∃ d links, follow m pieces = .ok d ∧ t.walk links d later = .ok l) :
    ∀ {pieces : List (List Char)} {m : Location},
      walkWith follow t m (pieces ++ later) = .ok l →
      ∃ d links, walkWith follow t m pieces = .ok d ∧ t.walk links d later = .ok l := by
  intro pieces
  induction pieces with
  | nil =>
    intro m h
    obtain ⟨links, hlinks⟩ := hrest m h
    exact ⟨m, links, rfl, hlinks⟩
  | cons piece rest ih =>
    intro m h
    rw [List.cons_append, FileTree.walkWith] at h
    rw [FileTree.walkWith]
    rcases hm : t.entryAt? m with _ | ⟨c, r⟩ | d | target | _
    case some.directory =>
      simp only [hm] at h ⊢
      split at h
      · simp at h
      rename_i hlen
      rw [if_neg hlen]
      split at h
      · rename_i target hlink
        rw [← List.append_assoc] at h
        exact hfollow _ _ h
      · exact ih h
    all_goals simp [hm] at h

theorem walk_append {later : List (List Char)} : ∀ {links : Nat} {m : Location}
    {pieces : List (List Char)}, t.walk links m (pieces ++ later) = .ok l →
      ∃ d links', t.walk links m pieces = .ok d ∧ t.walk links' d later = .ok l := by
  intro links
  induction links with
  | zero =>
    intro m pieces h
    exact walkWith_append (fun m h => ⟨0, h⟩) (fun m pieces h => by simp at h) h
  | succ links ih =>
    intro m pieces h
    exact walkWith_append (fun m h => ⟨links + 1, h⟩) (fun m pieces h => ih h) h

/-- One name leads from a directory to the place of that name, unless a link is there. -/
theorem walk_singleton {links : Nat} {piece : List Char} (h : t.walk links m [piece] = .ok l) :
    t.entryAt? m = some .directory ∧
      (l = enter m piece ∨ ∃ target, t.entryAt? (enter m piece) = some (.link target)) := by
  have hwalk : ∃ follow, walkWith follow t m [piece] = .ok l := by
    cases links with
    | zero => exact ⟨_, h⟩
    | succ links => exact ⟨_, h⟩
  obtain ⟨follow, hwalk⟩ := hwalk
  rw [FileTree.walkWith] at hwalk
  split at hwalk
  · simp at hwalk
  · rename_i hm
    refine ⟨hm, ?_⟩
    split at hwalk
    · simp at hwalk
    split at hwalk
    · rename_i target hlink
      exact .inr ⟨target, hlink⟩
    · exact .inl (Except.ok.inj hwalk).symm
  · simp at hwalk

/-- A path with one more name leads into the directory that the path leads to, unless a link is
there under that name. -/
theorem locate_below {dir : Path} {name : String} (hslash : '/' ∉ name.toList)
    (htrivial : Path.isTrivial name.toList = false) (hup : name ≠ "..") (hdir : dir.text ≠ "")
    (h : t.locate cwd ⟨dir.text ++ ("/" ++ name)⟩ = .ok l) :
    ∃ d, t.locate cwd dir = .ok d ∧
      (l = d ++ [name] ∨ ∃ target, t.entryAt? (d ++ [name]) = some (.link target)) := by
  have htext : (dir.text ++ ("/" ++ name)).toList = dir.text.toList ++ '/' :: name.toList := by
    simp
  have hpieces := dir.pieces_below hslash
  have hstart : startOf cwd ⟨dir.text ++ ("/" ++ name)⟩ = startOf cwd dir := by
    rw [startOf, startOf, Path.isAbsolute_below hdir]
  have hrefusal : refusal? dir = none := by
    have hlong : refusal? ⟨dir.text ++ ("/" ++ name)⟩ = none := by
      unfold locate at h
      split at h
      · simp at h
      · assumption
    unfold refusal? at hlong ⊢
    split at hlong
    · simp at hlong
    split at hlong
    · simp at hlong
    rename_i hzero
    split at hlong
    · simp at hlong
    rename_i hlimit
    have hzero' : ¬ dir.text.toList.contains '\x00' = true := by
      intro hmem
      refine hzero ?_
      rw [htext, List.contains_iff_mem]
      exact List.mem_append_left _ (List.contains_iff_mem.1 hmem)
    have hlimit' : ¬ pathLimit < dir.text.length := by
      intro hlt
      refine hlimit (Nat.lt_of_lt_of_le hlt ?_)
      rw [String.length_append]
      exact Nat.le_add_right _ _
    have hempty : ¬ dir.text.isEmpty = true := by simpa using hdir
    rw [if_neg hempty, if_neg hzero', if_neg hlimit']
  have henter : ∀ d, enter d name.toList = d ++ [name] := by
    intro d
    have hup' : name.toList ≠ ['.', '.'] := fun hlist => hup (String.toList_inj.1 hlist)
    rw [enter, htrivial, if_neg Bool.false_ne_true, if_neg hup', String.ofList_toList]
  unfold locate at h
  split at h
  · simp at h
  rw [hpieces, hstart] at h
  obtain ⟨d, links, hd, hlast⟩ := walk_append h
  obtain ⟨-, hplace⟩ := walk_singleton hlast
  rw [henter] at hplace
  refine ⟨d, ?_, hplace⟩
  rw [locate, hrefusal]
  exact hd

/-! ### Following a path in a changed tree -/

/-- Something that is no link has been put into a place for it, and all else is as it was. -/
structure Filled (t t' : FileTree) (l : Location) : Prop where
  /-- The place was fit for it. -/
  place : t.Fillable l
  /-- It is no link. -/
  not_link : ∀ target, t'.entryAt? l ≠ some (.link target)
  /-- What is elsewhere has not changed. -/
  elsewhere : ∀ m, m ≠ l → t'.entryAt? m = t.entryAt? m

theorem filled_put {node : Node} (hb : node.isBare = true)
    (hn : ∀ target, node.entry ≠ .link target) (hl : t.Fillable l) : Filled t (t.put l node) l where
  place := hl
  not_link target := by
    rw [entryAt?_put hb hl.not_directory hl.outer, if_pos rfl]
    exact fun h => hn target (Option.some.inj h)
  elsewhere m hm := by rw [entryAt?_put hb hl.not_directory hl.outer, if_neg hm]

/-- A directory or a link stays the same. -/
theorem Filled.entryAt?_of_fixed {e : Entry} (hf : Filled t t' l) (h : t.entryAt? m = some e)
    (he : e = .directory ∨ ∃ target, e = .link target) : t'.entryAt? m = some e := by
  rw [hf.elsewhere m, h]
  rintro rfl
  rcases he with rfl | ⟨target, rfl⟩
  · exact hf.place.not_directory h
  · exact hf.place.not_link target h

/-- A way leads through directories and links, so what is put into a place is not on it. -/
theorem Filled.walkWith {follow follow' : Location → List (List Char) → Except FileFault Location}
    {k : Location} (hfill : Filled t t' l)
    (hf : ∀ m pieces, follow m pieces = .ok k → follow' m pieces = .ok k) :
    ∀ {pieces : List (List Char)} {m : Location}, walkWith follow t m pieces = .ok k →
      FileTree.walkWith follow' t' m pieces = .ok k := by
  intro pieces
  induction pieces with
  | nil => intro m h; exact h
  | cons piece rest ih =>
    intro m h
    rcases hm : t.entryAt? m with _ | ⟨c, r⟩ | d | target | _
    case some.directory =>
      have hm' : t'.entryAt? m = some .directory := hfill.entryAt?_of_fixed hm (.inl rfl)
      simp only [FileTree.walkWith, hm] at h
      simp only [FileTree.walkWith, hm']
      split at h
      · simp at h
      · rename_i hlen
        rw [if_neg hlen]
        split at h
        · rename_i target hn
          rw [hfill.entryAt?_of_fixed hn (.inr ⟨_, rfl⟩)]
          exact hf _ _ h
        · rename_i hn
          have hstep := ih h
          split
          · rename_i target hn'
            by_cases hne : enter m piece = l
            · exact absurd (hne ▸ hn') (hfill.not_link target)
            · rw [hfill.elsewhere _ hne] at hn'
              exact absurd hn' (hn target)
          · exact hstep
    all_goals simp [FileTree.walkWith, hm] at h

theorem Filled.walk (hfill : Filled t t' l) : ∀ {links : Nat} {k m : Location}
    {pieces : List (List Char)}, t.walk links m pieces = .ok k →
      t'.walk links m pieces = .ok k := by
  intro links
  induction links with
  | zero => intro k m pieces h; exact hfill.walkWith (fun _ _ h => by simp at h) h
  | succ links ih => intro k m pieces h; exact hfill.walkWith (fun _ _ h => ih h) h

theorem locate_put_file {k : Location} (hl : t.Fillable l) (h : t.locate cwd p = .ok k) :
    (t.put l (.file content runnable)).locate cwd p = .ok k := by
  unfold locate at h ⊢
  split at h
  · simp at h
  · exact (filled_put rfl (by simp [Node.entry]) hl).walk h

/-! ### Writing a file -/

/-- A file is written where its path leads to. -/
theorem locate_of_locateFile (h : t.locateFile cwd p = .ok l) : t.locate cwd p = .ok l := by
  unfold locateFile at h
  split at h
  · rename_i hl
    rw [hl, ← h]
  · split at h
    · split at h <;> simp at h
    · simp at h

/-- A path that does not end in a slash leads to the file that is written by it. -/
theorem locateFile_eq (h : p.pieces.getLast? ≠ some []) :
    t.locateFile cwd p = t.locate cwd p := by
  unfold locateFile
  split
  · rename_i l hl
    exact hl.symm
  · rename_i fault hfault
    rw [if_neg (fun hand => h hand.1), hfault]

theorem entry_of_locate {e : Entry} (hl : t.locate cwd p = .ok l) (he : t.entryAt? l = some e) :
    t.entry cwd p = .ok (l, e) := by
  simp [entry, hl, he, bind, Except.bind, pure, Except.pure]

theorem entry_eq_ok {e : Entry} :
    t.entry cwd p = .ok (l, e) ↔ t.locate cwd p = .ok l ∧ t.entryAt? l = some e := by
  refine ⟨fun h => ?_, fun h => entry_of_locate h.1 h.2⟩
  simp only [entry, bind, Except.bind] at h
  split at h
  · simp at h
  · rename_i k hk
    split at h
    · rename_i e' he
      obtain ⟨rfl, rfl⟩ : k = l ∧ e' = e := by simpa [pure, Except.pure] using h
      exact ⟨hk, he⟩
    · simp [throw, throwThe, MonadExceptOf.throw] at h

/-- A path leads to a file if there is one where it leads. -/
theorem isFile_iff : t.isFile cwd p = true ↔ ∃ l content runnable,
    t.locate cwd p = .ok l ∧ t.entryAt? l = some (.file content runnable) := by
  unfold isFile
  constructor
  · intro h
    split at h
    · rename_i l content runnable he
      exact ⟨l, content, runnable, entry_eq_ok.1 he⟩
    · simp at h
  · rintro ⟨l, content, runnable, hl, hf⟩
    simp [entry_of_locate hl hf]

theorem not_isDevice_of_isFile (h : t.isFile cwd p = true) : t.isDevice cwd p = false := by
  obtain ⟨l, content, runnable, hl, hf⟩ := isFile_iff.1 h
  simp [isDevice, entry_of_locate hl hf]

/-- A path leads to a directory if there is one where it leads. -/
theorem isDirectory_iff : t.isDirectory cwd p = true ↔
    ∃ l, t.locate cwd p = .ok l ∧ t.entryAt? l = some .directory := by
  unfold isDirectory
  constructor
  · intro h
    split at h
    · rename_i l he
      exact ⟨l, entry_eq_ok.1 he⟩
    · simp at h
  · rintro ⟨l, hl, hd⟩
    simp [entry_of_locate hl hd]

/-- A path that leads to a place with nothing in it leads to nothing. -/
theorem entry_of_locate_none (hl : t.locate cwd p = .ok l) (he : t.entryAt? l = none) :
    t.entry cwd p = .error .notFound := by
  simp [entry, hl, he, bind, Except.bind]
  rfl

/-- What is put at a location. -/
theorem putFile_eq_ok : t.putFile l content runnable = .ok t' ↔
    t.fitting l content = content ∧ t.put l (.file content runnable) = t' := by
  unfold putFile
  split <;> simp_all

/-- **Where a file can be written.** Either no file can be, or a device is there, or it is a place
for a file. -/
theorem writeAt_cases (t : FileTree) (l : Location) :
    (∃ fault, ∀ content, t.writeAt l content = .error fault) ∨
      (∃ d, t.entryAt? l = some (.device d) ∧
        ∀ content, t.writeAt l content = .ok t ∨ ∃ fault, t.writeAt l content = .error fault) ∨
      ∃ runnable, t.Fillable l ∧ (∀ d, t.entryAt? l ≠ some (.device d)) ∧
        ∀ content, t.writeAt l content = t.putFile l content runnable := by
  unfold writeAt
  rcases hentry : t.entryAt? l with _ | ⟨c, r⟩ | d | target | _
  case none =>
    rcases hdir : t.isDirectoryAt l.dropLast with _ | _
    · exact .inl ⟨_, fun _ => rfl⟩
    · exact .inr (.inr ⟨_, .of_none hentry hdir, nofun, fun _ => rfl⟩)
  case some.file => exact .inr (.inr ⟨_, .of_file hentry, nofun, fun _ => rfl⟩)
  case some.device =>
    refine .inr (.inl ⟨d, rfl, fun content => ?_⟩)
    dsimp only
    split
    · exact .inr ⟨_, rfl⟩
    · exact .inl rfl
  all_goals exact .inl ⟨_, fun _ => rfl⟩

/-- What a file is written to its path leads to. -/
theorem write_eq_ok : t.write cwd p content = .ok t' ↔
    ∃ l, t.locateFile cwd p = .ok l ∧ t.writeAt l content = .ok t' := by
  unfold write
  split
  · rename_i hl
    simp [hl]
  · rename_i l hl
    simp [hl]

theorem isDevice_eq_of_locate (hl : t.locate cwd p = .ok l)
    (h : ∀ d, t.entryAt? l ≠ some (.device d)) : t.isDevice cwd p = false := by
  rcases he : t.entryAt? l with _ | e
  · simp [isDevice, entry_of_locate_none hl he]
  · rw [isDevice, entry_of_locate hl he]
    cases e with
    | device d => exact absurd he (h d)
    | file | link | directory => rfl

/-- Writing a file that is no device puts it at the location that its path leads to. -/
theorem eq_put_of_write (h : t.write cwd p content = .ok t') (hd : t.isDevice cwd p = false) :
    ∃ l runnable, t.locate cwd p = .ok l ∧ t.Fillable l ∧
      t' = t.put l (.file content runnable) := by
  obtain ⟨l, hl, hwrite⟩ := write_eq_ok.1 h
  replace hl := locate_of_locateFile hl
  rcases t.writeAt_cases l with ⟨fault, hno⟩ | ⟨d, hdevice, -⟩ | ⟨runnable, hfill, -, hput⟩
  · simp [hno] at hwrite
  · simp [isDevice, entry_of_locate hl hdevice] at hd
  · rw [hput] at hwrite
    exact ⟨l, runnable, hl, hfill, (putFile_eq_ok.1 hwrite).2.symm⟩

/-- **Read after write.** -/
theorem entry_of_write (h : t.write cwd p content = .ok t') (hd : t.isDevice cwd p = false) :
    ∃ l runnable, t'.entry cwd p = .ok (l, .file content runnable) := by
  obtain ⟨l, r, hl, hf, rfl⟩ := eq_put_of_write h hd
  exact ⟨l, r, entry_of_locate (locate_put_file hf hl) (entryAt?_put_file_self hf)⟩

theorem read_of_write (h : t.write cwd p content = .ok t') (hd : t.isDevice cwd p = false) :
    t'.read cwd p = .ok content := by
  obtain ⟨l, r, he⟩ := entry_of_write h hd
  simp [read, he, bind, Except.bind, pure, Except.pure]

theorem isFile_of_write (h : t.write cwd p content = .ok t') (hd : t.isDevice cwd p = false) :
    t'.isFile cwd p = true := by
  obtain ⟨l, r, he⟩ := entry_of_write h hd
  simp [isFile, he]

theorem readText_of_write {s : String} (h : t.write cwd p (Utf8.encode s) = .ok t')
    (hd : t.isDevice cwd p = false) : t'.readText cwd p = .ok s := by
  simp [readText, read_of_write h hd, Utf8.decode?_encode, bind, Except.bind, pure, Except.pure]

theorem readText_eq_ok {text : String} : t.readText cwd p = .ok text ↔
    ∃ content, t.read cwd p = .ok content ∧ Utf8.decode? content = some text := by
  unfold readText
  rcases t.read cwd p with fault | content
  · simp [bind, Except.bind]
  · rcases hdecode : Utf8.decode? content with _ | s <;>
      simp [bind, Except.bind, pure, Except.pure, throw, throwThe, MonadExceptOf.throw, hdecode]

theorem contains_of_read (h : t.read cwd p = .ok content) : t.contains cwd p = true := by
  rcases hentry : t.entry cwd p with fault | e
  · simp [FileTree.read, hentry, bind, Except.bind] at h
  · simp [contains, hentry, Except.isOk, Except.toBool]

/-- A device keeps nothing of what is written. -/
theorem eq_of_write_of_isDevice (h : t.write cwd p content = .ok t')
    (hd : t.isDevice cwd p = true) : t' = t := by
  obtain ⟨l, hl, hwrite⟩ := write_eq_ok.1 h
  replace hl := locate_of_locateFile hl
  rcases t.writeAt_cases l with ⟨fault, hno⟩ | ⟨d, -, hany⟩ | ⟨runnable, -, hdevice, -⟩
  · simp [hno] at hwrite
  · rcases hany content with hok | ⟨fault, hno⟩
    · exact Except.ok.inj (hwrite.symm.trans hok)
    · simp [hno] at hwrite
  · rw [isDevice_eq_of_locate hl hdevice] at hd
    exact Bool.noConfusion hd

/-- Writing a file blocks no way. -/
theorem locate_after_write (h : t.write cwd p content = .ok t') (hq : t.locate cwd q = .ok m) :
    t'.locate cwd q = .ok m := by
  rcases hd : t.isDevice cwd p with _ | _
  · obtain ⟨l, runnable, -, hfill, rfl⟩ := eq_put_of_write h hd
    exact locate_put_file hfill hq
  · rwa [eq_of_write_of_isDevice h hd]

/-- **Read another file.** What a path leads to stays the same if it leads elsewhere. -/
theorem entry_of_write_of_ne (h : t.write cwd p content = .ok t') (hp : t.locate cwd p = .ok l)
    (hq : t.locate cwd q = .ok m) (hne : m ≠ l) : t'.entry cwd q = t.entry cwd q := by
  by_cases hd : t.isDevice cwd p = true
  · rw [eq_of_write_of_isDevice h hd]
  · obtain ⟨k, r, hk, hf, rfl⟩ := eq_put_of_write h (by simpa using hd)
    obtain rfl : l = k := Except.ok.inj (hp.symm.trans hk)
    have hq' : (t.put l (.file content r)).locate cwd q = .ok m := locate_put_file hf hq
    have he : (t.put l (.file content r)).entryAt? m = t.entryAt? m :=
      entryAt?_put_file_of_ne hf hne
    rcases hm : t.entryAt? m with _ | e
    · rw [entry_of_locate_none hq hm, entry_of_locate_none hq' (he.trans hm)]
    · rw [entry_of_locate hq hm, entry_of_locate hq' (he.trans hm)]

theorem read_of_write_of_ne (h : t.write cwd p content = .ok t') (hp : t.locate cwd p = .ok l)
    (hq : t.locate cwd q = .ok m) (hne : m ≠ l) : t'.read cwd q = t.read cwd q := by
  simp only [read, entry_of_write_of_ne h hp hq hne]

/-! ### Attempts to write -/

theorem fitting_prefix (t : FileTree) (l : Location) (content : Bytes) :
    t.fitting l content <+: content := by
  unfold fitting
  split
  · exact List.take_prefix _ _
  · exact List.prefix_rfl

@[simp] theorem fitting_fitting (t : FileTree) (l : Location) (content : Bytes) :
    t.fitting l (t.fitting l content) = t.fitting l content := by
  unfold fitting
  split
  · rw [List.take_take, Nat.min_self]
  · rfl

/-- Of what fits into one block there is room for all or for nothing. -/
theorem fitting_eq_nil (hsmall : content.length ≤ blockSize) (h : t.fitting l content ≠ content) :
    t.fitting l content = [] := by
  unfold fitting at h ⊢
  split at h
  · rename_i blocks _
    rcases Nat.eq_zero_or_pos blocks with rfl | hpos
    · rw [Nat.zero_mul, List.take_zero]
    · have hroom : content.length ≤ blocks * blockSize :=
        Nat.le_trans hsmall (Nat.le_mul_of_pos_left _ hpos)
      exact absurd (List.take_of_length_le hroom) h
  · exact absurd rfl h

/-- A file that was cut off: there was room only for the beginning `cut` of the content, and that
has been written. -/
structure CutOff (t : FileTree) (cwd : Location) (p : Path) (content cut : Bytes)
    (t' : FileTree) : Prop where
  /-- It is a beginning. -/
  isPrefix : cut <+: content
  /-- It is not all. -/
  ne : cut ≠ content
  /-- It is nothing if the content fits into one block. -/
  eq_nil : content.length ≤ blockSize → cut = []
  /-- The path leads to no device. -/
  not_device : t.isDevice cwd p = false
  /-- The beginning has been written. -/
  written : t.write cwd p cut = .ok t'

/-- An attempt that does not fail leaves what was to be written. -/
theorem afterWrite_of_ok (h : t.write cwd p content = .ok t') :
    t.afterWrite cwd p content = t' := by
  obtain ⟨l, hl, hwrite⟩ := write_eq_ok.1 h
  rw [afterWrite, hl]
  dsimp only
  rcases t.writeAt_cases l with ⟨fault, hno⟩ | ⟨d, -, hany⟩ | ⟨runnable, -, -, hput⟩
  · simp [hno] at hwrite
  · obtain rfl : t' = t := by
      rcases hany content with hok | ⟨fault, hno⟩
      · exact Except.ok.inj (hwrite.symm.trans hok)
      · simp [hno] at hwrite
    rcases hany (t'.fitting l content) with hok | ⟨fault, hno⟩
    · rw [hok]
      rfl
    · rw [hno]
      rfl
  · have hfits := (putFile_eq_ok.1 ((hput content).symm.trans hwrite)).1
    rw [hfits, hwrite]
    rfl

/-- Where there is no room for all of a content, the part that fits is written. -/
theorem cutOff_of_fitting (hl : t.locateFile cwd p = .ok l)
    (hdevice : ∀ d, t.entryAt? l ≠ some (.device d)) (hfits : t.fitting l content ≠ content)
    (hwritten : t.write cwd p (t.fitting l content) = .ok t') :
    t.afterWrite cwd p content = t' ∧ t.CutOff cwd p content (t.fitting l content) t' := by
  have hafter : t.afterWrite cwd p content = t' := by
    simp only [write, hl] at hwritten
    simp only [afterWrite, hl, hwritten]
    rfl
  refine ⟨hafter, ?_⟩
  constructor
  case isPrefix => exact fitting_prefix t l content
  case ne => exact hfits
  case eq_nil => exact fun hsmall => fitting_eq_nil hsmall hfits
  case not_device => exact isDevice_eq_of_locate (locate_of_locateFile hl) hdevice
  case written => exact hwritten

/-- **An attempt that fails** changes nothing, or leaves a file that was cut off. -/
theorem afterWrite_of_error {fault : FileFault} (h : t.write cwd p content = .error fault) :
    t.afterWrite cwd p content = t ∨
      fault = .noSpace ∧ ∃ cut, t.CutOff cwd p content cut (t.afterWrite cwd p content) := by
  unfold write at h
  unfold afterWrite
  split at h
  · exact .inl rfl
  rename_i l hl
  rcases t.writeAt_cases l with ⟨fault', hno⟩ | ⟨d, -, hany⟩ | ⟨runnable, -, hdevice, hput⟩
  · rw [hno]
    exact .inl rfl
  · refine .inl ?_
    rcases hany (t.fitting l content) with hok | ⟨fault', hno⟩
    · rw [hok]
      rfl
    · rw [hno]
      rfl
  · rw [hput, putFile] at h
    split at h
    · simp at h
    rename_i hfits
    have hwritten : t.write cwd p (t.fitting l content) =
        .ok (t.put l (.file (t.fitting l content) runnable)) := by
      refine write_eq_ok.2 ⟨l, hl, ?_⟩
      rw [hput, putFile_eq_ok]
      exact ⟨fitting_fitting t l content, rfl⟩
    obtain ⟨hafter, hcut⟩ := cutOff_of_fitting hl hdevice hfits hwritten
    rw [← hafter] at hcut
    simp only [afterWrite, hl] at hcut
    exact .inr ⟨(Except.error.inj h).symm, _, hcut⟩

/-! ### Creating directories -/

/-- A directory that was not there before is all that comes to be at a location. -/
theorem entryAt?_createAlong (m : Location) (pieces : List (List Char)) :
    ∀ (t : FileTree) (start : Location) (done : List (List Char)) (outer : Location),
      (t.createAlong start done outer pieces).2.entryAt? m = t.entryAt? m ∨
      t.entryAt? m = none ∧
        (t.createAlong start done outer pieces).2.entryAt? m = some .directory := by
  induction pieces with
  | nil => intro t start done outer; exact .inl rfl
  | cons piece rest ih =>
    intro t start done outer
    unfold createAlong
    rcases t.walk linkLimit start (done ++ [piece]) with fault | next
    · exact .inl rfl
    rcases hn : t.entryAt? next with _ | ⟨c, r⟩ | d | target | _
    case some.directory => simpa only [hn] using ih t start (done ++ [piece]) next
    case none =>
      simp only [hn]
      split
      · exact .inl rfl
      split
      · exact .inl rfl
      · rename_i hp
        have hput : (t.put next (.directory [])).entryAt? m =
            if m = next then some .directory else t.entryAt? m :=
          entryAt?_put rfl (by simp [hn]) (by simpa using hp) m
        rcases ih (t.put next (.directory [])) start (done ++ [piece]) next with hsame | ⟨hnone, hm⟩
        · rw [hsame, hput]
          by_cases he : m = next
          · exact .inr ⟨he ▸ hn, if_pos he⟩
          · exact .inl (if_neg he)
        · have he : m ≠ next := fun he => by simp [hput, if_pos he] at hnone
          rw [hput, if_neg he] at hnone
          exact .inr ⟨hnone, hm⟩
    all_goals exact .inl (by simp only [hn])

/-- Creating directories changes nothing but that directories come to be where nothing was. -/
theorem entryAt?_createDirectories_cases (t : FileTree) (cwd : Location) (p : Path) (m : Location) :
    (t.createDirectories cwd p).2.entryAt? m = t.entryAt? m ∨
      t.entryAt? m = none ∧ (t.createDirectories cwd p).2.entryAt? m = some .directory := by
  unfold createDirectories
  split
  · exact .inl rfl
  split
  · exact entryAt?_createAlong m _ t _ _ _
  · exact entryAt?_createAlong m _ t _ _ _

/-- What is there stays there. -/
theorem entryAt?_createDirectories {e : Entry} (h : t.entryAt? l = some e) :
    (t.createDirectories cwd p).2.entryAt? l = some e := by
  rcases entryAt?_createDirectories_cases t cwd p l with hsame | ⟨hnone, -⟩
  · rw [hsame, h]
  · simp [h] at hnone

/-- The way along which directories were created leads to a directory. -/
theorem walk_createAlong (pieces : List (List Char)) :
    ∀ {t : FileTree} {start outer : Location} {done : List (List Char)},
      (pieces = [] → t.walk linkLimit start done = .ok outer ∧ t.entryAt? outer = some .directory) →
      (t.createAlong start done outer pieces).1 = .ok () →
      ∃ l, (t.createAlong start done outer pieces).2.walk linkLimit start (done ++ pieces) = .ok l ∧
        (t.createAlong start done outer pieces).2.entryAt? l = some .directory := by
  induction pieces with
  | nil =>
    intro t start outer done houter _
    rw [List.append_nil]
    exact ⟨outer, houter rfl⟩
  | cons piece rest ih =>
    intro t start outer done _ h
    rw [List.append_cons]
    unfold createAlong at h ⊢
    rcases hnext : t.walk linkLimit start (done ++ [piece]) with fault | next
    · simp [hnext] at h
    rcases hn : t.entryAt? next with _ | ⟨c, r⟩ | d | target | _
    case some.directory =>
      simp only [hnext, hn] at h ⊢
      exact ih (fun _ => ⟨hnext, hn⟩) h
    case none =>
      simp only [hnext, hn] at h ⊢
      split at h
      · simp at h
      rename_i hlink
      split at h
      · simp at h
      rename_i hp
      have hfill : Filled t (t.put next (.directory [])) next :=
        filled_put rfl (by simp [Node.entry]) (.of_none hn (by simpa using hp))
      rw [if_neg hlink, if_neg hp]
      refine ih (fun _ => ⟨hfill.walk hnext, ?_⟩) h
      rw [entryAt?_put rfl (by simp [hn]) (by simpa using hp), if_pos rfl]
      rfl
    all_goals simp [hnext, hn] at h

/-- **A directory that was created is there.** -/
theorem isDirectory_createDirectories (hp : p.text ≠ "")
    (h : (t.createDirectories cwd p).1 = .ok ()) :
    (t.createDirectories cwd p).2.isDirectory cwd p = true := by
  have hempty : p.text.isEmpty = false := by simpa using hp
  unfold createDirectories at h ⊢
  rcases hr : refusal? p with _ | fault
  · simp only [hr] at h ⊢
    split at h
    · -- A dot at the end is never created.
      generalize t.createAlong (startOf cwd p) [] (startOf cwd p)
        (Path.dropTrivialEnd p.pieces).dropLast = made at h
      obtain ⟨fault | ⟨⟩, files⟩ := made <;> simp [Except.bind] at h
    · rename_i hdot
      rw [if_neg hdot]
      have hpieces : p.pieces ≠ [] := List.splitOn_ne_nil _ _
      obtain ⟨l, hwalk, hl⟩ := walk_createAlong p.pieces (fun hnil => absurd hnil hpieces) h
      have hlocate : (t.createAlong (startOf cwd p) [] (startOf cwd p) p.pieces).2.locate cwd p =
          .ok l := by
        rw [locate, hr]
        exact hwalk
      simp [isDirectory, entry, hlocate, hl, bind, Except.bind, pure, Except.pure]
  · simp [hr, hempty] at h

/-- What is there in one tree is there in another. -/
def Extends (t' t : FileTree) : Prop := ∀ l e, t.entryAt? l = some e → t'.entryAt? l = some e

theorem extends_createAlong (t : FileTree) (start : Location) (done : List (List Char))
    (outer : Location) (pieces : List (List Char)) :
    (t.createAlong start done outer pieces).2.Extends t := by
  intro m e he
  rcases entryAt?_createAlong m pieces t start done outer with hsame | ⟨hnone, -⟩
  · rw [hsame, he]
  · simp [he] at hnone

/-- A way to something that is there leads through what is there. -/
theorem walkWith_of_extends
    {follow follow' : Location → List (List Char) → Except FileFault Location}
    {k : Location} {e : Entry} (ht : t'.Extends t) (hk : t.entryAt? k = some e)
    (hf : ∀ m pieces, follow m pieces = .ok k → follow' m pieces = .ok k) :
    ∀ {pieces : List (List Char)} {m : Location}, walkWith follow t m pieces = .ok k →
      walkWith follow' t' m pieces = .ok k := by
  intro pieces
  induction pieces with
  | nil => intro m h; exact h
  | cons piece rest ih =>
    intro m h
    rcases hm : t.entryAt? m with _ | ⟨c, r⟩ | d | target | _
    case some.directory =>
      simp only [walkWith, hm] at h
      simp only [walkWith, ht m _ hm]
      split at h
      · simp at h
      rename_i hlen
      rw [if_neg hlen]
      rcases hn : t.entryAt? (enter m piece) with _ | e'
      · -- The way would have to end where there is nothing.
        simp only [hn] at h
        cases rest with
        | nil =>
          obtain rfl := Except.ok.inj h
          simp [hk] at hn
        | cons piece' rest => simp [walkWith, hn] at h
      · rw [hn] at h
        rw [ht _ _ hn]
        cases e' with
        | link target => exact hf _ _ h
        | file | device | directory => exact ih h
    all_goals simp [walkWith, hm] at h

theorem walk_of_extends {k : Location} {e : Entry} (ht : t'.Extends t)
    (hk : t.entryAt? k = some e) : ∀ {links : Nat} {m : Location} {pieces : List (List Char)},
      t.walk links m pieces = .ok k → t'.walk links m pieces = .ok k := by
  intro links
  induction links with
  | zero => intro m pieces h; exact walkWith_of_extends ht hk (fun _ _ h => by simp at h) h
  | succ links ih => intro m pieces h; exact walkWith_of_extends ht hk (fun _ _ h => ih h) h

/-- What a path leads to stays there. -/
theorem entry_of_extends {e : Entry} (ht : t'.Extends t) (h : t.entry cwd p = .ok (l, e)) :
    t'.entry cwd p = .ok (l, e) := by
  obtain ⟨hl, he⟩ := entry_eq_ok.1 h
  refine entry_eq_ok.2 ⟨?_, ht l e he⟩
  unfold locate at hl ⊢
  split at hl
  · simp at hl
  · exact walk_of_extends ht he hl

/-- A file that can be read is read in the same way after directories have been created. -/
theorem read_createDirectories {q : Path} (h : t.read cwd q = .ok content) :
    (t.createDirectories cwd p).2.read cwd q = .ok content := by
  have ht : (t.createDirectories cwd p).2.Extends t := fun _ _ he => entryAt?_createDirectories he
  rcases hq : t.entry cwd q with fault | ⟨l, e⟩
  · simp [read, hq, bind, Except.bind] at h
  · rw [← h]
    simp only [read, hq, entry_of_extends ht hq]

/-- What is read lies somewhere. -/
theorem locate_of_read (h : t.read cwd p = .ok content) : ∃ l, t.locate cwd p = .ok l := by
  rcases hp : t.locate cwd p with fault | l
  · simp [read, entry, hp, bind, Except.bind] at h
  · exact ⟨l, rfl⟩

/-! ### Files that are left alone -/

/-- A file that is at a location after a change had its content before. The file may have been
removed. -/
def Spares (l : Location) (t t' : FileTree) : Prop :=
  ∀ content runnable, t'.entryAt? l = some (.file content runnable) →
    ∃ runnable', t.entryAt? l = some (.file content runnable')

theorem Spares.refl (l : Location) (t : FileTree) : Spares l t t := fun _ _ h => ⟨_, h⟩

theorem Spares.trans {t'' : FileTree} (h : Spares l t t') (h' : Spares l t' t'') :
    Spares l t t'' := by
  intro content runnable hf
  obtain ⟨runnable', hf'⟩ := h' content runnable hf
  exact h content runnable' hf'

theorem Spares.of_eq (h : t'.entryAt? l = t.entryAt? l) : Spares l t t' :=
  fun _ _ hf => ⟨_, h ▸ hf⟩

/-- Directories that are created are no files. -/
theorem spares_createDirectories (l : Location) (t : FileTree) (cwd : Location) (p : Path) :
    Spares l t (t.createDirectories cwd p).2 := by
  rcases entryAt?_createDirectories_cases t cwd p l with hsame | ⟨-, hmade⟩
  · exact .of_eq hsame
  · intro content runnable hf
    simp [hmade] at hf

/-- What comes to be at a location when a file is written there. -/
theorem content_of_write (h : t.write cwd p content = .ok t') (hl : t.locate cwd p = .ok l)
    {content' : Bytes} (hf : t'.entryAt? l = some (.file content' runnable)) :
    content' = content := by
  rcases hd : t.isDevice cwd p with _ | _
  · obtain ⟨k, r, hk, hfill, rfl⟩ := eq_put_of_write h hd
    obtain rfl : l = k := Except.ok.inj (hl.symm.trans hk)
    rw [entryAt?_put_file_self hfill] at hf
    simp at hf
    exact hf.1.symm
  · obtain rfl := eq_of_write_of_isDevice h hd
    simp only [isDevice] at hd
    rcases he : t'.entryAt? l with _ | e
    · simp [hf] at he
    · rw [entry_of_locate hl he] at hd
      obtain rfl : Entry.file content' runnable = e := Option.some.inj (hf.symm.trans he)
      simp at hd

/-- A file is written at its own location only. -/
theorem spares_write {m : Location} (h : t.write cwd p content = .ok t')
    (hl : t.locate cwd p = .ok l) (hne : m ≠ l) : Spares m t t' := by
  rcases hd : t.isDevice cwd p with _ | _
  · obtain ⟨k, r, hk, hfill, rfl⟩ := eq_put_of_write h hd
    obtain rfl : l = k := Except.ok.inj (hl.symm.trans hk)
    exact .of_eq (entryAt?_put_file_of_ne hfill hne)
  · rw [eq_of_write_of_isDevice h hd]
    exact .refl m t

/-- Where a file is written its path leads to. -/
theorem locate_of_write (h : t.write cwd p content = .ok t') : ∃ l, t.locate cwd p = .ok l := by
  obtain ⟨l, hl, -⟩ := write_eq_ok.1 h
  exact ⟨l, locate_of_locateFile hl⟩

/-- A file that was emptied is empty, and the others are left alone. -/
theorem content_of_write_nil (h : t.write cwd p [] = .ok t')
    (hf : t'.entryAt? l = some (.file content runnable)) :
    content = [] ∨ ∃ runnable', t.entryAt? l = some (.file content runnable') := by
  obtain ⟨m, hm⟩ := locate_of_write h
  by_cases hl : l = m
  · subst hl
    exact .inl (content_of_write h hm hf)
  · exact .inr (spares_write h hm hl content runnable hf)

end FileTree

end ModuleBuild
