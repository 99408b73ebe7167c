import ModuleBuild.FileTree.Lemmas

/-!
# A file tree without one of its files

Two trees are compared of which one lacks a file that the other one has, all else being the same. No
way leads on through a file, so a path that leads to some other place in one of them leads there in
the other one too, and reads, writes and directories that are created come to the same.

There is one exception. A path may go on after the file as if it were a directory. It fails in both
trees, but for different reasons: what is there is no directory, or nothing is there.

## Main definitions

* `FileTree.Lacks` — a tree lacks a file that another one has
* `FileTree.GoesAfter`, `FileTree.LeadsThrough` — a way and a path go on after a file
* `FileTree.IsClear` — a file is not in the way of a path

## Main results

* `FileTree.lacks_removeBelow` — a tree from which a file was removed lacks it
* `FileTree.Lacks.walk` — a way comes to the same end, or goes on after the file
* `FileTree.Lacks.entry_eq` — what a path leads to if it does not lead to the file
* `FileTree.Lacks.createDirectories` — creating directories where the file is not in the way
* `FileTree.Lacks.write`, `FileTree.Lacks.afterWrite` — writing another file
* `FileTree.Lacks.write_self` — writing the missing file itself
-/

namespace ModuleBuild

namespace Node

variable {entries : List (String × Node)}

theorem lookup_filter_self (name : String) (entries : List (String × Node)) :
    (entries.filter (fun p => p.1 != name)).lookup name = none := by
  rw [List.lookup_eq_none_iff]
  intro p hp
  have hne := (List.mem_filter.1 hp).2
  simpa [bne_comm] using hne

/-- **A removal shows at its own location and nowhere else**, if it is that of a leaf. -/
theorem entry_find?_remove {leaf : Node} (hleaf : leaf.entry ≠ .directory) :
    ∀ {l : Location} {entries : List (String × Node)} (m : Location),
      find? l entries = some leaf →
      (find? m (remove l entries)).map entry =
        if m = l then none else (find? m entries).map entry := by
  intro l
  induction l with
  | nil =>
    intro entries m hl
    obtain rfl := Option.some.inj hl
    simp [entry] at hleaf
  | cons name rest ih =>
    intro entries m hl
    cases m with
    | nil => simp [entry]
    | cons other mrest =>
    cases rest with
    | nil =>
      by_cases ho : other = name
      · subst ho
        have hgone : find? (other :: mrest) (remove [other] entries) = none := by
          simp [find?, remove, lookup_filter_self]
        rw [hgone]
        by_cases hm : mrest = []
        · simp [hm]
        · rw [if_neg (by simpa using hm)]
          rcases hn : entries.lookup other with _ | node
          · simp [find?, hn]
          · have hd : node.entry ≠ .directory := by
              intro hd
              rcases node with ⟨c, r⟩ | d | p | inner <;> simp [entry] at hd
              rw [find?_cons_directory _ hn] at hl
              obtain rfl := Option.some.inj hl
              simp [entry] at hleaf
            simp [find?_eq_none_of_leaf hn hd hm]
      · rw [if_neg (by simp [ho])]
        simp [find?, remove, lookup_filter_ne ho]
    | cons next rest =>
      rcases hn : entries.lookup name with _ | node
      · simp [find?, hn] at hl
      · rcases node with ⟨c, r⟩ | d | p | inner
        case directory =>
          have hremove : remove (name :: next :: rest) entries =
              replace name (.directory (remove (next :: rest) inner)) entries := by
            rw [remove, hn]
            simp
          rw [hremove]
          by_cases ho : other = name
          · subst ho
            rw [find?_cons_directory _ hn] at hl
            rw [find?_cons_directory mrest (by rw [lookup_replace, if_pos rfl]),
              find?_cons_directory mrest hn, ih mrest hl]
            simp
          · rw [find?_replace_of_ne _ ho, if_neg (by simp [ho])]
        all_goals simp [find?, hn] at hl

end Node

namespace FileTree

variable {t t₀ : FileTree} {cwd l m k : Location} {p q : Path} {content : Bytes}

/-- A tree lacks the file that another tree has at `l`, and all else is the same. -/
structure Lacks (t₀ t : FileTree) (l : Location) : Prop where
  /-- The other tree has a file there. -/
  isFile : ∃ content runnable, t.entryAt? l = some (.file content runnable)
  /-- Nothing is there. -/
  nothing : t₀.entryAt? l = none
  /-- All else is the same. -/
  elsewhere : ∀ m, m ≠ l → t₀.entryAt? m = t.entryAt? m
  /-- There is the same room in both. -/
  room_eq : t₀.room = t.room

/-- A tree from which a file was removed lacks it. -/
theorem lacks_removeBelow {runnable : Bool} (h : t.entryAt? l = some (.file content runnable)) :
    (t.removeBelow l).Lacks t l := by
  have hremove : ∀ m, (t.removeBelow l).entryAt? m = if m = l then none else t.entryAt? m := by
    intro m
    obtain ⟨leaf, hleaf, hentry⟩ := Option.map_eq_some_iff.1 h
    exact Node.entry_find?_remove (by simp [hentry]) m hleaf
  refine ⟨⟨content, runnable, h⟩, ?_, fun m hm => ?_, rfl⟩
  · rw [hremove, if_pos rfl]
  · rw [hremove, if_neg hm]

namespace Lacks

/-- The two trees have the same directories. -/
theorem isDirectoryAt_eq (h : t₀.Lacks t l) (m : Location) :
    t₀.isDirectoryAt m = t.isDirectoryAt m := by
  by_cases hm : m = l
  · subst hm
    obtain ⟨content, runnable, hf⟩ := h.isFile
    simp [isDirectoryAt, hf, h.nothing]
  · rw [isDirectoryAt, isDirectoryAt, h.elsewhere m hm]

/-- The place of the missing file lies in a directory. -/
theorem isDirectoryAt_dropLast (h : t₀.Lacks t l) : t₀.isDirectoryAt l.dropLast = true := by
  obtain ⟨content, runnable, hf⟩ := h.isFile
  rw [h.isDirectoryAt_eq, FileTree.isDirectoryAt_dropLast hf]

/-! ### Following a path -/

/-- Two ways come to the same end; or one of them fails since something is no directory, where the
other one fails since nothing is there. -/
def Alike (way way₀ : Except FileFault Location) : Prop :=
  way₀ = way ∨ way = .error .notDirectory ∧ way₀ = .error .notFound

/-- On a way the missing file shows at the end only, or where it would have to be a directory. -/
theorem walkWith {follow follow₀ : Location → List (List Char) → Except FileFault Location}
    (h : t₀.Lacks t l) (hfollow : ∀ m pieces, Alike (follow m pieces) (follow₀ m pieces)) :
    ∀ (pieces : List (List Char)) (m : Location),
      Alike (FileTree.walkWith follow t m pieces) (FileTree.walkWith follow₀ t₀ m pieces) := by
  intro pieces
  induction pieces with
  | nil => intro m; exact .inl rfl
  | cons piece rest ih =>
    intro m
    by_cases hm : m = l
    · -- The way goes on after the file.
      subst hm
      obtain ⟨content, runnable, hf⟩ := h.isFile
      exact .inr (by simp [FileTree.walkWith, hf, h.nothing])
    rcases hdir : t.entryAt? m with _ | ⟨c, r⟩ | d | target | _
    case some.directory =>
      simp only [FileTree.walkWith, hdir, h.elsewhere m hm]
      split
      · exact .inl rfl
      by_cases hnext : enter m piece = l
      · obtain ⟨content, runnable, hf⟩ := h.isFile
        simp only [hnext, hf, h.nothing]
        exact ih l
      · rw [h.elsewhere _ hnext]
        split
        · exact hfollow _ _
        · exact ih _
    all_goals exact .inl (by simp only [FileTree.walkWith, hdir, h.elsewhere m hm])

theorem walk (h : t₀.Lacks t l) : ∀ (links : Nat) (m : Location) (pieces : List (List Char)),
    Alike (t.walk links m pieces) (t₀.walk links m pieces) := by
  intro links
  induction links with
  | zero => intro m pieces; exact h.walkWith (fun _ _ => .inl rfl) pieces m
  | succ links ih => intro m pieces; exact h.walkWith ih pieces m

theorem locate (h : t₀.Lacks t l) (cwd : Location) (p : Path) :
    Alike (t.locate cwd p) (t₀.locate cwd p) := by
  unfold FileTree.locate
  split
  · exact .inl rfl
  · exact h.walk _ _ _

theorem locate_eq_ok_iff (h : t₀.Lacks t l) : t₀.locate cwd p = .ok m ↔ t.locate cwd p = .ok m := by
  rcases h.locate cwd p with heq | ⟨hfile, hnothing⟩
  · rw [heq]
  · simp [hfile, hnothing]

end Lacks

/-- Following a path looks at nothing but what there is at each location. -/
theorem walk_congr (h : ∀ m, t₀.entryAt? m = t.entryAt? m) : ∀ (links : Nat) (m : Location)
    (pieces : List (List Char)), t₀.walk links m pieces = t.walk links m pieces := by
  have hwith : ∀ {follow follow₀ : Location → List (List Char) → Except FileFault Location},
      (∀ m pieces, follow₀ m pieces = follow m pieces) → ∀ (pieces : List (List Char))
      (m : Location), walkWith follow₀ t₀ m pieces = walkWith follow t m pieces := by
    intro follow follow₀ hfollow pieces
    induction pieces with
    | nil => intro m; rfl
    | cons piece rest ih => intro m; simp only [walkWith, h, hfollow, ih]
  intro links
  induction links with
  | zero => intro m pieces; exact hwith (fun _ _ => rfl) pieces m
  | succ links ih => intro m pieces; exact hwith ih pieces m

/-- A way goes on after the file at `l`: it fails since that is no directory, and without the file
it fails since nothing is there. -/
def GoesAfter (t : FileTree) (l m : Location) (pieces : List (List Char)) : Prop :=
  t.walk linkLimit m pieces = .error .notDirectory ∧
    (t.removeBelow l).walk linkLimit m pieces = .error .notFound

/-- A path goes on after the file at `l`. -/
def LeadsThrough (t : FileTree) (l cwd : Location) (p : Path) : Prop :=
  refusal? p = none ∧ t.GoesAfter l (startOf cwd p) p.pieces

/-- The file at `l` is not in the way of a path: no first part of the path leads to the file or goes
on after it. -/
def IsClear (t : FileTree) (l cwd : Location) (p : Path) : Prop :=
  ∀ front, front <+: p.pieces →
    t.walk linkLimit (startOf cwd p) front ≠ .ok l ∧ ¬ t.GoesAfter l (startOf cwd p) front

theorem not_goesAfter_of_walk {pieces : List (List Char)}
    (h : t.walk linkLimit m pieces = .ok k) : ¬ t.GoesAfter l m pieces := by
  rintro ⟨hfile, -⟩
  simp [h] at hfile

/-- A path that leads somewhere does not go on after a file. -/
theorem not_leadsThrough_of_locate (h : t.locate cwd p = .ok m) : ¬ t.LeadsThrough l cwd p := by
  rintro ⟨hrefusal, hafter⟩
  rw [locate, hrefusal] at h
  exact not_goesAfter_of_walk h hafter

/-- A file is not in the way of a path whose first parts all lead somewhere else. -/
theorem isClear_of_located
    (h : ∀ n ≤ p.pieces.length,
      (t.walk linkLimit (startOf cwd p) (p.pieces.take n)).toOption ∉ [none, some l]) :
    t.IsClear l cwd p := by
  intro front hfront
  have hplace := h front.length hfront.length_le
  rw [← List.prefix_iff_eq_take.1 hfront] at hplace
  rcases hm : t.walk linkLimit (startOf cwd p) front with fault | m
  · simp [hm, Except.toOption] at hplace
  · refine ⟨?_, not_goesAfter_of_walk hm⟩
    rintro hl
    obtain rfl := Except.ok.inj hl
    simp [hm, Except.toOption] at hplace

namespace Lacks

theorem walk_eq {pieces : List (List Char)} (h : t₀.Lacks t l) (hafter : ¬ t.GoesAfter l m pieces) :
    t₀.walk linkLimit m pieces = t.walk linkLimit m pieces := by
  rcases h.walk linkLimit m pieces with heq | ⟨hfile, hnothing⟩
  · exact heq
  · refine absurd ⟨hfile, ?_⟩ hafter
    obtain ⟨content, runnable, hf⟩ := h.isFile
    have hremove := lacks_removeBelow hf
    rw [← hnothing]
    refine walk_congr (fun k => ?_) linkLimit m pieces
    by_cases hk : k = l
    · rw [hk, hremove.nothing, h.nothing]
    · rw [hremove.elsewhere k hk, h.elsewhere k hk]

theorem locate_eq (h : t₀.Lacks t l) (hthrough : ¬ t.LeadsThrough l cwd p) :
    t₀.locate cwd p = t.locate cwd p := by
  unfold FileTree.locate
  rcases hrefusal : refusal? p with _ | fault
  · exact h.walk_eq fun hafter => hthrough ⟨hrefusal, hafter⟩
  · rfl

/-! ### What a path leads to -/

/-- What a path leads to is the same, unless it is the missing file. -/
theorem entry_eq_ok_iff (h : t₀.Lacks t l) (hp : t.locate cwd p ≠ .ok l) {e : Entry} :
    t₀.entry cwd p = .ok (m, e) ↔ t.entry cwd p = .ok (m, e) := by
  rw [FileTree.entry_eq_ok, FileTree.entry_eq_ok, h.locate_eq_ok_iff]
  refine and_congr_right fun hm => ?_
  rw [h.elsewhere m (by rintro rfl; exact hp hm)]

/-- **What a path leads to**, or why it leads to nothing, is the same, unless the path leads to the
missing file or goes on after it. -/
theorem entry_eq (h : t₀.Lacks t l) (hp : t.locate cwd p ≠ .ok l)
    (hthrough : ¬ t.LeadsThrough l cwd p) : t₀.entry cwd p = t.entry cwd p := by
  unfold FileTree.entry
  rw [h.locate_eq hthrough]
  rcases hm : t.locate cwd p with fault | m
  · rfl
  · have hne : m ≠ l := by rintro rfl; exact hp hm
    simp only [bind, Except.bind, h.elsewhere m hne]

theorem contains_eq (h : t₀.Lacks t l) (hp : t.locate cwd p ≠ .ok l) :
    t₀.contains cwd p = t.contains cwd p := by
  have hok : ∀ t : FileTree, t.contains cwd p = true ↔ ∃ m e, t.entry cwd p = .ok (m, e) := by
    intro t
    rw [contains]
    rcases t.entry cwd p with fault | ⟨m, e⟩ <;> simp [Except.isOk, Except.toBool]
  rw [Bool.eq_iff_iff, hok, hok]
  simp only [h.entry_eq_ok_iff hp]

theorem isFile_eq (h : t₀.Lacks t l) (hp : t.locate cwd p ≠ .ok l) :
    t₀.isFile cwd p = t.isFile cwd p := by
  rw [Bool.eq_iff_iff, isFile_iff, isFile_iff]
  simp only [← FileTree.entry_eq_ok, h.entry_eq_ok_iff hp]

theorem isDirectory_eq (h : t₀.Lacks t l) : t₀.isDirectory cwd p = t.isDirectory cwd p := by
  rw [Bool.eq_iff_iff, isDirectory_iff, isDirectory_iff]
  simp only [← isDirectoryAt_iff, h.isDirectoryAt_eq, h.locate_eq_ok_iff]

theorem read_eq (h : t₀.Lacks t l) (hp : t.locate cwd p ≠ .ok l)
    (hthrough : ¬ t.LeadsThrough l cwd p) : t₀.read cwd p = t.read cwd p := by
  rw [FileTree.read, FileTree.read, h.entry_eq hp hthrough]

/-! ### Changes -/

/-- Where a file may be put in one of the trees it may be put in the other one. -/
theorem fillable (h : t₀.Lacks t l) (hm : m ≠ l) (hfill : t.Fillable m) : t₀.Fillable m where
  outer := by rw [h.isDirectoryAt_eq, hfill.outer]
  not_directory := by rw [h.elsewhere m hm]; exact hfill.not_directory
  not_link := by rw [h.elsewhere m hm]; exact hfill.not_link

/-- What is put elsewhere does not make the missing file appear. -/
theorem put {node : Node} (h : t₀.Lacks t l) (hb : node.isBare = true) (hfill : t.Fillable m)
    (hm : m ≠ l) : (t₀.put m node).Lacks (t.put m node) l := by
  have hfill₀ := h.fillable hm hfill
  have hput : ∀ k, (t.put m node).entryAt? k = if k = m then some node.entry else t.entryAt? k :=
    entryAt?_put hb hfill.not_directory hfill.outer
  have hput₀ : ∀ k, (t₀.put m node).entryAt? k = if k = m then some node.entry else t₀.entryAt? k :=
    entryAt?_put hb hfill₀.not_directory hfill₀.outer
  constructor
  case isFile =>
    obtain ⟨content, runnable, hf⟩ := h.isFile
    exact ⟨content, runnable, by rw [hput, if_neg hm.symm, hf]⟩
  case nothing => rw [hput₀, if_neg hm.symm, h.nothing]
  case elsewhere =>
    intro k hk
    rw [hput, hput₀, h.elsewhere k hk]
  case room_eq => exact h.room_eq

theorem obstacle_eq (h : t₀.Lacks t l) (outer : Location) (piece : List Char) (last : Bool)
    (fault : FileFault) :
    t₀.obstacle outer piece last fault = t.obstacle outer piece last fault := by
  unfold obstacle
  by_cases hp : enter outer piece = l
  · obtain ⟨content, runnable, hf⟩ := h.isFile
    rw [hp, hf, h.nothing]
  · rw [h.elsewhere _ hp]

/-- Creating directories along a way that the missing file is not on. -/
theorem createAlong {start : Location} (pieces : List (List Char)) :
    ∀ {t t₀ : FileTree} {done : List (List Char)} {outer : Location}, t₀.Lacks t l →
      (∀ front, front <+: pieces →
        (t.createAlong start done outer pieces).2.walk linkLimit start (done ++ front) ≠ .ok l ∧
          ¬ (t.createAlong start done outer pieces).2.GoesAfter l start (done ++ front)) →
      (t₀.createAlong start done outer pieces).1 = (t.createAlong start done outer pieces).1 ∧
        (t₀.createAlong start done outer pieces).2.Lacks
          (t.createAlong start done outer pieces).2 l := by
  induction pieces with
  | nil => intro t t₀ done outer h _; exact ⟨rfl, h⟩
  | cons piece rest ih =>
    intro t t₀ done outer h hclear
    obtain ⟨hplace, hafter⟩ := hclear [piece] ⟨rest, rfl⟩
    have heq : t₀.walk linkLimit start (done ++ [piece]) =
        t.walk linkLimit start (done ++ [piece]) := by
      rcases h.walk linkLimit start (done ++ [piece]) with heq | ⟨hfile, -⟩
      · exact heq
      · -- Nothing is created then, so the way still goes on after the file.
        have hsame : (t.createAlong start done outer (piece :: rest)).2 = t := by
          simp [FileTree.createAlong, hfile]
        rw [hsame] at hafter
        exact h.walk_eq hafter
    have hlater : ∀ {next : Location} {t' : FileTree},
        t.createAlong start done outer (piece :: rest) =
          t'.createAlong start (done ++ [piece]) next rest → ∀ front, front <+: rest →
        (t'.createAlong start (done ++ [piece]) next rest).2.walk linkLimit start
            (done ++ [piece] ++ front) ≠ .ok l ∧
          ¬ (t'.createAlong start (done ++ [piece]) next rest).2.GoesAfter l start
            (done ++ [piece] ++ front) := by
      intro next t' hstep front hfront
      rw [hstep] at hclear
      rw [← List.append_cons]
      exact hclear (piece :: front) (List.prefix_cons_inj piece |>.2 hfront)
    rcases hwalk : t.walk linkLimit start (done ++ [piece]) with fault | next
    · simp [FileTree.createAlong, heq, hwalk, h.obstacle_eq, h]
    have hnext : next ≠ l := by
      rintro rfl
      obtain ⟨content, runnable, hf⟩ := h.isFile
      exact hplace (walk_of_extends (extends_createAlong t start done outer _) hf hwalk)
    rcases hn : t.entryAt? next with _ | ⟨c, r⟩ | d | target | _
    case none =>
      by_cases hlink : next ≠ enter outer piece
      · simp [FileTree.createAlong, heq, hwalk, hn, h.elsewhere next hnext, hlink, h]
      rcases hp : t.isDirectoryAt next.dropLast with _ | _
      · simp [FileTree.createAlong, heq, hwalk, hn, h.elsewhere next hnext, hlink,
          h.isDirectoryAt_eq, hp, h]
      have hstep : t.createAlong start done outer (piece :: rest) =
          (t.put next (.directory [])).createAlong start (done ++ [piece]) next rest := by
        simp [FileTree.createAlong, hwalk, hn, hlink, hp]
      have hstep₀ : t₀.createAlong start done outer (piece :: rest) =
          (t₀.put next (.directory [])).createAlong start (done ++ [piece]) next rest := by
        simp [FileTree.createAlong, heq, hwalk, hn, h.elsewhere next hnext, hlink,
          h.isDirectoryAt_eq, hp]
      rw [hstep, hstep₀]
      exact ih (h.put rfl (.of_none hn hp) hnext) (hlater hstep)
    case some.directory =>
      have hstep : t.createAlong start done outer (piece :: rest) =
          t.createAlong start (done ++ [piece]) next rest := by
        simp [FileTree.createAlong, hwalk, hn]
      have hstep₀ : t₀.createAlong start done outer (piece :: rest) =
          t₀.createAlong start (done ++ [piece]) next rest := by
        simp [FileTree.createAlong, heq, hwalk, hn, h.elsewhere next hnext]
      rw [hstep, hstep₀]
      exact ih h (hlater hstep)
    all_goals simp [FileTree.createAlong, heq, hwalk, hn, h.elsewhere next hnext, h]

/-- **Creating directories** comes to the same, unless the missing file is in the way. -/
theorem createDirectories (h : t₀.Lacks t l)
    (hclear : (t.createDirectories cwd p).2.IsClear l cwd p) :
    (t₀.createDirectories cwd p).1 = (t.createDirectories cwd p).1 ∧
      (t₀.createDirectories cwd p).2.Lacks (t.createDirectories cwd p).2 l := by
  unfold IsClear at hclear
  unfold FileTree.createDirectories at hclear ⊢
  rcases hrefusal : refusal? p with _ | fault
  case some => exact ⟨rfl, h⟩
  simp only [hrefusal, h.isDirectory_eq] at hclear ⊢
  split at hclear
  · rename_i hdot
    rw [if_pos hdot, if_pos hdot]
    have hfront : (Path.dropTrivialEnd p.pieces).dropLast <+: p.pieces := by
      refine (List.dropLast_prefix _).trans ?_
      rw [Path.dropTrivialEnd, ← List.reverse_suffix, List.reverse_reverse]
      exact List.dropWhile_suffix _
    obtain ⟨hresult, hlacks⟩ := h.createAlong (Path.dropTrivialEnd p.pieces).dropLast
      (fun front hin => hclear front (hin.trans hfront))
    exact ⟨by rw [hresult], hlacks⟩
  · rename_i hdot
    rw [if_neg hdot, if_neg hdot]
    exact h.createAlong p.pieces hclear

/-- There is room for the same. -/
theorem fitting_eq (h : t₀.Lacks t l) (m : Location) (content : Bytes) :
    t₀.fitting m content = t.fitting m content := by
  rw [fitting, fitting, h.room_eq]

/-- Another file is put in the same way, or there is no room for it in either tree. -/
theorem putFile (h : t₀.Lacks t l) (hm : m ≠ l) (hfill : t.Fillable m) (content : Bytes)
    (runnable : Bool) :
    (∃ fault, t.putFile m content runnable = .error fault ∧
        t₀.putFile m content runnable = .error fault) ∨
      ∃ t' t₀', t.putFile m content runnable = .ok t' ∧ t₀.putFile m content runnable = .ok t₀' ∧
        t₀'.Lacks t' l ∧ t'.entryAt? l = t.entryAt? l := by
  unfold FileTree.putFile
  rw [h.fitting_eq]
  split
  · exact .inr ⟨_, _, rfl, rfl, h.put rfl hfill hm, entryAt?_put_file_of_ne hfill hm.symm⟩
  · exact .inl ⟨_, rfl, rfl⟩

theorem writeAt (h : t₀.Lacks t l) (hm : m ≠ l) (content : Bytes) :
    (∃ fault, t.writeAt m content = .error fault ∧ t₀.writeAt m content = .error fault) ∨
      ∃ t' t₀', t.writeAt m content = .ok t' ∧ t₀.writeAt m content = .ok t₀' ∧
        t₀'.Lacks t' l ∧ t'.entryAt? l = t.entryAt? l := by
  simp only [FileTree.writeAt, h.elsewhere m hm, h.isDirectoryAt_eq]
  rcases he : t.entryAt? m with _ | ⟨c, r⟩ | dev | target | _
  case none =>
    dsimp only
    split
    · rename_i hdir
      exact h.putFile hm (.of_none he hdir) content false
    · exact .inl ⟨_, rfl, rfl⟩
  case some.file => exact h.putFile hm (.of_file he) content r
  case some.device =>
    dsimp only
    split
    · exact .inl ⟨_, rfl, rfl⟩
    · exact .inr ⟨_, _, rfl, rfl, h, rfl⟩
  all_goals exact .inl ⟨_, rfl, rfl⟩

theorem locateFile_eq (h : t₀.Lacks t l) (hend : p.pieces.getLast? ≠ some [])
    (hthrough : ¬ t.LeadsThrough l cwd p) : t₀.locateFile cwd p = t.locateFile cwd p := by
  rw [FileTree.locateFile_eq hend, FileTree.locateFile_eq hend, h.locate_eq hthrough]

/-- **Writing another file** comes to the same. -/
theorem write (h : t₀.Lacks t l) (hend : p.pieces.getLast? ≠ some [])
    (hp : t.locate cwd p ≠ .ok l) (hthrough : ¬ t.LeadsThrough l cwd p) (content : Bytes) :
    (∃ fault, t.write cwd p content = .error fault ∧ t₀.write cwd p content = .error fault) ∨
      ∃ t' t₀', t.write cwd p content = .ok t' ∧ t₀.write cwd p content = .ok t₀' ∧
        t₀'.Lacks t' l ∧ t'.entryAt? l = t.entryAt? l := by
  unfold FileTree.write
  rw [h.locateFile_eq hend hthrough]
  rcases hm : t.locateFile cwd p with fault | m
  · exact .inl ⟨fault, rfl, rfl⟩
  · exact h.writeAt (by rintro rfl; exact hp (locate_of_locateFile hm)) content

/-- What an attempt to write another file leaves is the same. -/
theorem afterWrite (h : t₀.Lacks t l) (hend : p.pieces.getLast? ≠ some [])
    (hp : t.locate cwd p ≠ .ok l) (hthrough : ¬ t.LeadsThrough l cwd p) (content : Bytes) :
    (t₀.afterWrite cwd p content).Lacks (t.afterWrite cwd p content) l ∧
      (t.afterWrite cwd p content).entryAt? l = t.entryAt? l := by
  unfold FileTree.afterWrite
  rw [h.locateFile_eq hend hthrough]
  rcases hm : t.locateFile cwd p with fault | m
  · exact ⟨h, rfl⟩
  have hne : m ≠ l := by rintro rfl; exact hp (locate_of_locateFile hm)
  dsimp only
  rw [h.fitting_eq]
  rcases h.writeAt hne (t.fitting m content) with
    ⟨fault, hwrite, hwrite₀⟩ | ⟨t', t₀', hwrite, hwrite₀, h', hkept⟩
  · rw [hwrite, hwrite₀]
    exact ⟨h, rfl⟩
  · rw [hwrite, hwrite₀]
    exact ⟨h', hkept⟩

/-- Where there is room for a content, it comes to be in the place of the missing file. -/
theorem write_of_fitting (h : t₀.Lacks t l) (hp : t.locate cwd p = .ok l)
    (hfits : t.fitting l content = content) :
    ∃ t' t₀', t.write cwd p content = .ok t' ∧ t₀.write cwd p content = .ok t₀' ∧
      t'.read cwd p = .ok content ∧ t₀'.read cwd p = .ok content ∧
      ∀ m, m ≠ l → t₀'.entryAt? m = t'.entryAt? m := by
  have hp₀ : t₀.locate cwd p = .ok l := h.locate_eq_ok_iff.2 hp
  obtain ⟨old, runnable, hf⟩ := h.isFile
  have hfill : t.Fillable l := .of_file hf
  have hfill₀ : t₀.Fillable l := .of_none h.nothing h.isDirectoryAt_dropLast
  have hwrite : t.write cwd p content = .ok (t.put l (.file content runnable)) := by
    simp [FileTree.write, locateFile, hp, FileTree.writeAt, hf, FileTree.putFile, hfits]
  have hwrite₀ : t₀.write cwd p content = .ok (t₀.put l (.file content false)) := by
    simp [FileTree.write, locateFile, hp₀, FileTree.writeAt, h.nothing, h.isDirectoryAt_dropLast,
      FileTree.putFile, h.fitting_eq, hfits]
  refine ⟨_, _, hwrite, hwrite₀, ?_, ?_, fun m hm => ?_⟩
  · exact read_of_write hwrite (by simp [isDevice, entry_of_locate hp hf])
  · exact read_of_write hwrite₀ (by simp [isDevice, entry_of_locate_none hp₀ h.nothing])
  · rw [entryAt?_put_file_of_ne hfill hm, entryAt?_put_file_of_ne hfill₀ hm, h.elsewhere m hm]

/-- Where there is no room for all of a content, it cannot be written. -/
theorem write_of_not_fitting (h : t₀.Lacks t l) (hp : t.locate cwd p = .ok l)
    (hfits : t.fitting l content ≠ content) :
    t.write cwd p content = .error .noSpace ∧ t₀.write cwd p content = .error .noSpace := by
  have hp₀ : t₀.locate cwd p = .ok l := h.locate_eq_ok_iff.2 hp
  obtain ⟨old, runnable, hf⟩ := h.isFile
  constructor
  · simp [FileTree.write, locateFile, hp, FileTree.writeAt, hf, FileTree.putFile, hfits]
  · simp [FileTree.write, locateFile, hp₀, FileTree.writeAt, h.nothing, h.isDirectoryAt_dropLast,
      FileTree.putFile, h.fitting_eq, hfits]

/-- **Writing the missing file** makes up for it. Where there is no room the same beginning of the
content comes to be there in both trees. -/
theorem write_self (h : t₀.Lacks t l) (hp : t.locate cwd p = .ok l) (content : Bytes) :
    (∃ t' t₀', t.write cwd p content = .ok t' ∧ t₀.write cwd p content = .ok t₀' ∧
        t'.read cwd p = .ok content ∧ t₀'.read cwd p = .ok content ∧
        ∀ m, m ≠ l → t₀'.entryAt? m = t'.entryAt? m) ∨
      t.write cwd p content = .error .noSpace ∧ t₀.write cwd p content = .error .noSpace ∧
        ∃ cut, t.CutOff cwd p content cut (t.afterWrite cwd p content) ∧
          t₀.CutOff cwd p content cut (t₀.afterWrite cwd p content) ∧
          ∀ m, m ≠ l →
            (t₀.afterWrite cwd p content).entryAt? m = (t.afterWrite cwd p content).entryAt? m := by
  by_cases hfits : t.fitting l content = content
  · exact .inl (h.write_of_fitting hp hfits)
  have hp₀ : t₀.locate cwd p = .ok l := h.locate_eq_ok_iff.2 hp
  obtain ⟨old, runnable, hf⟩ := h.isFile
  obtain ⟨t', t₀', hwritten, hwritten₀, -, -, helsewhere⟩ :=
    h.write_of_fitting hp (fitting_fitting t l content)
  obtain ⟨hafter, hcut⟩ := cutOff_of_fitting (by simp [locateFile, hp]) (by simp [hf]) hfits
    hwritten
  rw [← h.fitting_eq] at hfits hwritten₀
  obtain ⟨hafter₀, hcut₀⟩ := cutOff_of_fitting (by simp [locateFile, hp₀]) (by simp [h.nothing])
    hfits hwritten₀
  rw [h.fitting_eq] at hcut₀ hfits
  obtain ⟨hwrite, hwrite₀⟩ := h.write_of_not_fitting hp hfits
  rw [hafter, hafter₀]
  exact .inr ⟨hwrite, hwrite₀, _, hcut, hcut₀, helsewhere⟩

end Lacks

end FileTree

end ModuleBuild
