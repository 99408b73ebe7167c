import ModuleBuild.FileTree.Without
import ModuleBuild.Proofs.Cache.Repeat

/-!
# A fingerprint that is of no use

A file that holds something else than the fingerprint of the present files stands for no fingerprint
at all: the first step comes to the same as if the file were not there. To say so, two runs are
compared, one of them on files of which the file of the fingerprint was taken away. Nothing that is
in the file makes the step fail; an error about a fingerprint comes only from taking it anew, after
a tool call that has ended well. Where there is no room for the fingerprint, both runs leave an
empty file in its place.

## What else is looked at in a file

The tool must not look at the file, and the file must not be one that the step looks at for another
reason: the tool, the target or the manifest, or what is in the way of the directory for the units.
A file is also looked at by a path that goes on after it, as if it were a directory, and such a path
fails in other words if the file is there. `Builder.not_fails_open` shows such a build.

## Main definitions

* `Runner.Overlooks` — a tool call does not look at a file and leaves it alone
* `Builder.ApartBefore`, `Builder.ApartAfter` — nothing but the fingerprint is looked at in a file
* `Sidecar.Emptied` — there was no room for a fingerprint in either of two trees
* `Builder.SameWithout` — what two runs have in common

## Main results

* `Builder.sameWithout_of_debased` — every end of the step is also reached without the file
* `Builder.fails_open` — a fingerprint that is of no use is as good as none
* `Builder.not_fails_open` — not so if a path goes on after its file
-/

namespace ModuleBuild

/-! ### The path of the fingerprint -/

namespace Path

/-- A path that goes on with a text without slashes ends in that text. -/
theorem exists_getLast?_pieces {last : String} (text : String) (hslash : '/' ∉ last.toList) :
    ∃ front : String, (⟨text ++ last⟩ : Path).pieces.getLast? = some (front ++ last).toList := by
  rw [pieces, String.toList_append]
  by_cases hmem : '/' ∈ text.toList
  · -- only what comes after the last slash counts
    obtain ⟨after, before, hsplit, hafter⟩ :=
      List.eq_append_cons_of_mem (List.mem_reverse.2 hmem)
    have htext : text.toList = before.reverse ++ '/' :: after.reverse := by
      simpa using congrArg List.reverse hsplit
    have hend : '/' ∉ after.reverse ++ last.toList := by simp [hafter, hslash]
    refine ⟨String.ofList after.reverse, ?_⟩
    rw [htext, List.append_assoc, List.cons_append, List.splitOn_append_cons_self,
      List.splitOn_eq_singleton hend, List.getLast?_concat, String.toList_append,
      String.toList_ofList]
  · have hend : '/' ∉ text.toList ++ last.toList := by simp [hmem, hslash]
    refine ⟨text, ?_⟩
    rw [List.splitOn_eq_singleton hend, String.toList_append]
    rfl

/-- A path whose last texts have no slash does not end in a slash. -/
theorem getLast?_pieces_ne {last : String} (text : String) (hslash : '/' ∉ last.toList)
    (hne : last ≠ "") : (⟨text ++ last⟩ : Path).pieces.getLast? ≠ some [] := by
  obtain ⟨front, hfront⟩ := exists_getLast?_pieces text hslash
  simp [hfront, hne]

theorem getLast?_pieces_join (base p : Path) :
    (base.join p).pieces.getLast? = p.pieces.getLast? := by
  rcases hp : p.isAbsolute with _ | _
  · obtain ⟨front, -, hfront⟩ := base.exists_pieces_join
    have hne : p.pieces ≠ [] := List.splitOn_ne_nil _ _
    rw [hfront p hp, List.getLast?_append, List.getLast?_eq_some_getLast hne, Option.some_or]
  · rw [join_of_isAbsolute base hp]

end Path

namespace Sidecar

variable {t t₀ : FileTree} {cwd l : Location} {s : Sidecar} {i : FingerprintInputs}

/-- The path of a fingerprint ends in the name of a file. -/
theorem getLast?_pieces_forTarget (outputDir target : Path) :
    (forTarget outputDir target).path.pieces.getLast? ≠ some [] := by
  rw [forTarget, Path.getLast?_pieces_join, Path.ofText, Octets.ofText_append,
    Octets.ofText_of_ascii (s := ".xxh3") (by decide)]
  exact Path.getLast?_pieces_ne _ (by decide) (by decide)

/-! ### Reading and writing without the file -/

/-- What is hashed is the same if the missing file is not among it. -/
theorem compute_eq (h : t₀.Lacks t l) (hinputs : ∀ p ∈ i.paths, t.locate cwd p ≠ .ok l)
    (hthrough : ∀ p ∈ i.paths, ¬ t.LeadsThrough l cwd p) : i.compute t₀ cwd = i.compute t cwd := by
  have hread : ∀ p ∈ i.paths, FingerprintInputs.readInput t₀ cwd p =
      FingerprintInputs.readInput t cwd p := by
    intro p hp
    rw [FingerprintInputs.readInput, FingerprintInputs.readInput,
      h.read_eq (hinputs p hp) (hthrough p hp)]
  obtain ⟨htool, htarget, hmanifest⟩ := FingerprintInputs.forall_mem_paths.1 hread
  rw [FingerprintInputs.compute, FingerprintInputs.sections, htool, htarget, hmanifest]
  rfl

/-- There was no room for a fingerprint in either of two trees: the file at `l` is empty in both,
and all else is the same. -/
structure Emptied (t t₀ : FileTree) (l : Location) : Prop where
  /-- The file is empty. -/
  isEmpty : ∃ runnable, t.entryAt? l = some (.file [] runnable)
  /-- It is empty in the other tree, too. -/
  isEmpty_other : ∃ runnable, t₀.entryAt? l = some (.file [] runnable)
  /-- All else is the same. -/
  elsewhere : ∀ m, m ≠ l → t₀.entryAt? m = t.entryAt? m

/-- What two attempts to keep a fingerprint leave that have failed with `e`: the file is as it was,
and is missing where it was missing, or there was no room for the fingerprint. -/
def NotSaved (s : Sidecar) (t t' t₀' : FileTree) (l : Location) (e : CacheError) : Prop :=
  t₀'.Lacks t' l ∧ t'.entryAt? l = t.entryAt? l ∨ e = .file s.path .noSpace ∧ Emptied t' t₀' l

/-- The file of a fingerprint is empty if it was cut off. -/
theorem entryAt?_of_cutOff {hash : ContentHash} {cut : Bytes} {t' : FileTree}
    (hl : t.locate cwd s.path = .ok l) (h : t.CutOff cwd s.path (content hash) cut t') :
    ∃ runnable, t'.entryAt? l = some (.file [] runnable) := by
  obtain rfl : cut = [] := h.eq_nil (by rw [length_content]; decide)
  obtain ⟨k, runnable, hk, hfill, rfl⟩ := FileTree.eq_put_of_write h.written h.not_device
  obtain rfl : l = k := Except.ok.inj (hl.symm.trans hk)
  exact ⟨runnable, FileTree.entryAt?_put_file_self hfill⟩

/-- A fingerprint is kept in the same way whether or not there was a file for it. -/
theorem save_without (h : t₀.Lacks t l) (hend : s.path.pieces.getLast? ≠ some [])
    (hthrough : ¬ t.LeadsThrough l cwd s.path) (hash : ContentHash) :
    (∃ e, s.save t cwd hash = .error e ∧ s.save t₀ cwd hash = .error e ∧
        s.NotSaved t (t.afterWrite cwd s.path (content hash))
          (t₀.afterWrite cwd s.path (content hash)) l e) ∨
      ∃ t' t₀', s.save t cwd hash = .ok t' ∧ s.save t₀ cwd hash = .ok t₀' ∧
        t₀'.read cwd s.path = t'.read cwd s.path ∧
        ∀ m, m ≠ l → t₀'.entryAt? m = t'.entryAt? m := by
  simp only [save]
  by_cases hl : t.locate cwd s.path = .ok l
  · rcases h.write_self hl (content hash) with
      ⟨t', t₀', hwrite, hwrite₀, hread, hread₀, helsewhere⟩ |
      ⟨hwrite, hwrite₀, cut, hcut, hcut₀, helsewhere⟩
    · rw [hwrite, hwrite₀]
      exact .inr ⟨t', t₀', rfl, rfl, hread₀.trans hread.symm, helsewhere⟩
    · rw [hwrite, hwrite₀]
      have hl₀ : t₀.locate cwd s.path = .ok l := h.locate_eq_ok_iff.2 hl
      exact .inl ⟨_, rfl, rfl, .inr ⟨rfl, entryAt?_of_cutOff hl hcut,
        entryAt?_of_cutOff hl₀ hcut₀, helsewhere⟩⟩
  rcases h.write hend hl hthrough (content hash) with
    ⟨fault, hwrite, hwrite₀⟩ | ⟨t', t₀', hwrite, hwrite₀, h', -⟩
  · rw [hwrite, hwrite₀]
    exact .inl ⟨_, rfl, rfl, .inl (h.afterWrite hend hl hthrough (content hash))⟩
  · obtain ⟨m, hm⟩ := FileTree.locate_of_write hwrite
    have hm' := FileTree.locate_after_write hwrite hm
    rw [hwrite, hwrite₀]
    refine .inr ⟨t', t₀', rfl, rfl, h'.read_eq ?_ ?_, h'.elsewhere⟩
    · rw [hm', ← hm]
      exact hl
    · exact FileTree.not_leadsThrough_of_locate hm'

end Sidecar

/-! ### What a tool call does not look at -/

/-- A tool call does not look at the file at `l` and leaves it alone: where the file is missing the
call ends in the same way and does the same to all other files, and where it is there it stays as it
was. -/
structure Runner.Overlooks {σ : Type} (runner : Runner σ) (i : Invocation) (tools : σ)
    (l : Location) (t t₀ : FileTree) : Prop where
  /-- The call ends in the same way. -/
  answer_eq : (runner.run i t₀ tools).1 = (runner.run i t tools).1
  /-- The tools are left in the same way. -/
  tools_eq : (runner.run i t₀ tools).2.2 = (runner.run i t tools).2.2
  /-- The missing file is still missing, and all else is the same. -/
  lacks : (runner.run i t₀ tools).2.1.Lacks (runner.run i t tools).2.1 l
  /-- The file stays as it was. -/
  kept : (runner.run i t tools).2.1.entryAt? l = t.entryAt? l

theorem Runner.Overlooks.of_run {σ : Type} {runner : Runner σ} {i : Invocation} {tools tools' : σ}
    {l : Location} {t t₀ left left₀ : FileTree} {answer : Except FileFault ToolOutput}
    (hrun : runner.run i t tools = (answer, left, tools'))
    (hrun₀ : runner.run i t₀ tools = (answer, left₀, tools'))
    (hlacks : left₀.Lacks left l) (hkept : left.entryAt? l = t.entryAt? l) :
    runner.Overlooks i tools l t t₀ where
  answer_eq := by rw [hrun, hrun₀]
  tools_eq := by rw [hrun, hrun₀]
  lacks := by rwa [hrun, hrun₀]
  kept := by rwa [hrun]

namespace Builder

variable {σ : Type} {b : Builder σ} {r : Request} {st st' : BuildState σ} {files files₀ : FileTree}
  {l : Location} {answer : Except FileFault ToolOutput} {result : Except BuildError DebaseOutcome}

/-! ### What is looked at in a file -/

/-- The file at `l` is neither the target nor in the way of the directory for the units. -/
structure ApartBefore (b : Builder σ) (r : Request) (files : FileTree) (l : Location) : Prop where
  /-- It is not the target. -/
  target : files.locate b.cwd r.targetPath ≠ .ok l
  /-- It is not in the way of the directory for the units. -/
  libDir : (b.debaseFiles r files).IsClear l b.cwd r.libDir

/-- The file at `l` is none of those that a fingerprint is taken of, and no path to them or to the
fingerprint goes on after it. -/
structure ApartAfter (b : Builder σ) (r : Request) (files : FileTree) (l : Location) : Prop where
  /-- It is none of the files that are hashed. -/
  inputs : ∀ p ∈ (b.fingerprintInputs r).paths, files.locate b.cwd p ≠ .ok l
  /-- The path of the tool does not go on after it. -/
  tool : ¬ files.LeadsThrough l b.cwd b.toolchain.debase
  /-- The path of the target does not go on after it. -/
  target : ¬ files.LeadsThrough l b.cwd r.targetPath
  /-- The path of the fingerprint does not go on after it. -/
  sidecar : ¬ files.LeadsThrough l b.cwd (sidecar r).path

/-- What two runs have in common, the second of which was begun without the file at `l`. They have
come to `result` in the states `st'` and `st₀'`; `st` is where the first one was begun. -/
structure SameWithout (b : Builder σ) (r : Request) (l : Location) (st : BuildState σ)
    (result : Except BuildError DebaseOutcome) (st' st₀' : BuildState σ) : Prop where
  /-- The tools are left in the same way. -/
  tools_eq : st₀'.tools = st'.tools
  /-- The same was emitted. -/
  sink_eq : st₀'.sink = st'.sink
  /-- All other files are the same. -/
  elsewhere : ∀ m, m ≠ l → st₀'.files.entryAt? m = st'.files.entryAt? m
  /-- If the runs end well they leave the same fingerprint. -/
  sidecar_eq : ∀ outcome, result = .ok outcome →
    st₀'.files.read b.cwd (sidecar r).path = st'.files.read b.cwd (sidecar r).path
  /-- Otherwise the file is as it was, and is missing where it was missing; or there was no room for
  a fingerprint, and the file is empty in both. -/
  untouched : ∀ e, result = .error e →
    st₀'.files.entryAt? l = none ∧ st'.files.entryAt? l = st.files.entryAt? l ∨
    e = .cache (.file (sidecar r).path .noSpace) ∧ Sidecar.Emptied st'.files st₀'.files l

/-- Without the file the work is not up to date. -/
theorem isUpToDate_without (h : files₀.Lacks files l)
    (hlocated : files.locate b.cwd (Builder.sidecar r).path = .ok l) :
    b.isUpToDate r files₀ = false := by
  have habsent : (Builder.sidecar r).isPresent files₀ b.cwd = false := by
    rw [Sidecar.isPresent, FileTree.isFile,
      FileTree.entry_of_locate_none (h.locate_eq_ok_iff.2 hlocated) h.nothing]
  simp [isUpToDate, habsent]

/-- Without the file the tool is called in the same way. -/
theorem Called.without (called : b.Called r st answer st') (h : files₀.Lacks st.files l)
    (hlocated : st.files.locate b.cwd (Builder.sidecar r).path = .ok l)
    (hapart : b.ApartBefore r st.files l)
    (hoverlooks : b.runner.Overlooks (b.debaseInvocation r) st.tools l
      (b.debaseFiles r st.files) (b.debaseFiles r files₀)) :
    ∃ left₀, b.Called r { st with files := files₀ } answer { st' with files := left₀ } ∧
      left₀.Lacks st'.files l ∧
      st'.files.entryAt? l = (b.debaseFiles r st.files).entryAt? l := by
  obtain ⟨hcreated, -⟩ := h.createDirectories hapart.libDir
  obtain ⟨hanswer, htools, hlacks, hkept⟩ := hoverlooks
  have hcall : b.runner.run (b.debaseInvocation r) (b.debaseFiles r st.files) st.tools =
      (answer, st'.files, st'.tools) := called.run_eq
  rw [hcall] at hanswer htools hlacks hkept
  let left₀ := (b.runner.run (b.debaseInvocation r) (b.debaseFiles r files₀) st.tools).2.1
  have called₀ : b.Called r { st with files := files₀ } answer { st' with files := left₀ } :=
    { found := (h.contains_eq hapart.target).trans called.found
      stale := isUpToDate_without h hlocated
      created := hcreated.trans called.created
      run_eq := Prod.ext hanswer (Prod.ext rfl htools)
      sink_eq := called.sink_eq }
  exact ⟨left₀, called₀, hlacks, hkept⟩

/-- Two runs that fail in the same way and leave the file as it was. -/
theorem SameWithout.of_error {e : BuildError} {left₀ : FileTree} (h : left₀.Lacks st'.files l)
    (hkept : st'.files.entryAt? l = st.files.entryAt? l) :
    b.SameWithout r l st (.error e) st' { st' with files := left₀ } where
  tools_eq := rfl
  sink_eq := rfl
  elsewhere := h.elsewhere
  sidecar_eq := by simp
  untouched _ _ := .inl ⟨h.nothing, hkept⟩

/-- The fingerprint is taken anew in the same way, or fails to be. -/
theorem refresh_without {left left₀ : FileTree} (h : left₀.Lacks left l)
    (hapart : b.ApartAfter r left l) (hwritten : left.isFile b.cwd r.manifestPath = true) :
    (∃ e, (Builder.sidecar r).refresh left b.cwd (b.fingerprintInputs r) = .error e ∧
      (Builder.sidecar r).refresh left₀ b.cwd (b.fingerprintInputs r) = .error e ∧
      (Builder.sidecar r).NotSaved left
        ((Builder.sidecar r).afterRefresh left b.cwd (b.fingerprintInputs r))
        ((Builder.sidecar r).afterRefresh left₀ b.cwd (b.fingerprintInputs r)) l e) ∨
    ∃ hash kept kept₀,
      (Builder.sidecar r).refresh left b.cwd (b.fingerprintInputs r) = .ok (hash, kept) ∧
      (Builder.sidecar r).refresh left₀ b.cwd (b.fingerprintInputs r) = .ok (hash, kept₀) ∧
      kept₀.read b.cwd (Builder.sidecar r).path = kept.read b.cwd (Builder.sidecar r).path ∧
      ∀ m, m ≠ l → kept₀.entryAt? m = kept.entryAt? m := by
  obtain ⟨m, -, -, hmanifest, -⟩ := FileTree.isFile_iff.1 hwritten
  have hcompute := Sidecar.compute_eq h hapart.inputs (FingerprintInputs.forall_mem_paths.2
    ⟨hapart.tool, hapart.target, FileTree.not_leadsThrough_of_locate hmanifest⟩)
  unfold Sidecar.refresh Sidecar.afterRefresh
  rw [hcompute]
  rcases (b.fingerprintInputs r).compute left b.cwd with e | hash
  · exact .inl ⟨e, rfl, rfl, .inl ⟨h, rfl⟩⟩
  have hend : (Builder.sidecar r).path.pieces.getLast? ≠ some [] :=
    Sidecar.getLast?_pieces_forTarget _ _
  rcases Sidecar.save_without h hend hapart.sidecar hash with
    ⟨e, hsave, hsave₀, hleft⟩ | ⟨kept, kept₀, hsave, hsave₀, hread, helsewhere⟩
  · refine .inl ⟨e, ?_, ?_, hleft⟩
    · simp [hsave, bind, Except.bind]
    · simp [hsave₀, bind, Except.bind]
  · refine .inr ⟨hash, kept, kept₀, ?_, ?_, hread, helsewhere⟩
    · simp [hsave, bind, Except.bind, pure, Except.pure]
    · simp [hsave₀, bind, Except.bind, pure, Except.pure]

/-- **Every end of the step** is also reached without the file of the fingerprint, unless the work
is up to date. -/
theorem sameWithout_of_debased (hends : b.Debased r st result st') (h : files₀.Lacks st.files l)
    (hlocated : st.files.locate b.cwd (Builder.sidecar r).path = .ok l)
    (hstale : ¬ b.UpToDate r st.files) (hbefore : b.ApartBefore r st.files l)
    (hoverlooks : b.runner.Overlooks (b.debaseInvocation r) st.tools l
      (b.debaseFiles r st.files) (b.debaseFiles r files₀))
    (hafter : ∀ answer left, b.Called r st answer left → b.ApartAfter r left.files l) :
    ∃ st₀', b.Debased r { st with files := files₀ } result st₀' ∧
      b.SameWithout r l st result st' st₀' := by
  have hmade : (b.debaseFiles r st.files).entryAt? l = st.files.entryAt? l := by
    obtain ⟨content, runnable, hf⟩ := h.isFile
    rw [hf]
    exact FileTree.entryAt?_createDirectories hf
  have hcontains := h.contains_eq hbefore.target
  cases hends with
  | targetMissing missing =>
    exact ⟨_, .targetMissing (hcontains.trans missing), .of_error h rfl⟩
  | cached found fresh => exact absurd (upToDate_iff.2 ⟨found, fresh⟩) hstale
  | notCreated found _ failed =>
    obtain ⟨hcreated, hlacks⟩ := h.createDirectories hbefore.libDir
    exact ⟨_, .notCreated (hcontains.trans found) (isUpToDate_without h hlocated)
      (hcreated.trans failed), .of_error hlacks hmade⟩
  | notSpawned called =>
    obtain ⟨left₀, called₀, hlacks, hkept⟩ := called.without h hlocated hbefore hoverlooks
    exact ⟨_, .notSpawned called₀, .of_error hlacks (hkept.trans hmade)⟩
  | toolFailed called failed =>
    obtain ⟨left₀, called₀, hlacks, hkept⟩ := called.without h hlocated hbefore hoverlooks
    exact ⟨_, .toolFailed called₀ failed, .of_error hlacks (hkept.trans hmade)⟩
  | manifestNotWritten called succeeded missing =>
    obtain ⟨left₀, called₀, hlacks, hkept⟩ := called.without h hlocated hbefore hoverlooks
    have hmanifest := (FingerprintInputs.forall_mem_paths.1 (hafter _ _ called).inputs).2.2
    exact ⟨_, .manifestNotWritten called₀ succeeded ((hlacks.isFile_eq hmanifest).trans missing),
      .of_error hlacks (hkept.trans hmade)⟩
  | notRefreshed called succeeded written failed =>
    obtain ⟨left₀, called₀, hlacks, hkept⟩ := called.without h hlocated hbefore hoverlooks
    have hmanifest := (FingerprintInputs.forall_mem_paths.1 (hafter _ _ called).inputs).2.2
    rcases refresh_without hlacks (hafter _ _ called) written with
      ⟨e, hrefresh, hrefresh₀, hleft⟩ | ⟨_, _, _, hrefresh, -⟩
    · obtain rfl := Except.error.inj (hrefresh.symm.trans failed)
      refine ⟨_, .notRefreshed called₀ succeeded ((hlacks.isFile_eq hmanifest).trans written)
        hrefresh₀, ?_⟩
      rcases hleft with ⟨hlacks', hkept'⟩ | ⟨rfl, hemptied⟩
      · exact .of_error hlacks' (hkept'.trans (hkept.trans hmade))
      · exact ⟨rfl, rfl, hemptied.elsewhere, by simp, fun e he =>
          .inr ⟨(Except.error.inj he).symm, hemptied⟩⟩
    · simp [hrefresh] at failed
  | refreshed called succeeded written kept =>
    obtain ⟨left₀, called₀, hlacks, hkept⟩ := called.without h hlocated hbefore hoverlooks
    have hmanifest := (FingerprintInputs.forall_mem_paths.1 (hafter _ _ called).inputs).2.2
    rcases refresh_without hlacks (hafter _ _ called) written with
      ⟨e, hrefresh, -, -⟩ | ⟨hash, files, files₀', hrefresh, hrefresh₀, hread, helsewhere⟩
    · simp [hrefresh] at kept
    · obtain ⟨rfl, rfl⟩ := by simpa using hrefresh.symm.trans kept
      exact ⟨_, .refreshed called₀ succeeded ((hlacks.isFile_eq hmanifest).trans written) hrefresh₀,
        ⟨rfl, rfl, helsewhere, fun _ _ => hread, by simp⟩⟩

/-- Keeping a log does not make a tool call look at a file. -/
theorem overlooks_logging {i : Invocation} {tools : List Call × σ}
    (h : b.runner.Overlooks i tools.2 l files files₀) :
    b.logging.runner.Overlooks i tools l files files₀ := by
  obtain ⟨hanswer, htools, hlacks, hkept⟩ := h
  constructor
  case answer_eq => exact hanswer
  case tools_eq =>
    rw [logging, withRunner, Runner.run_noting, Runner.run_noting, hanswer, htools]
  case lacks => exact hlacks
  case kept => exact hkept

/-- An error about a fingerprint comes from taking it anew. -/
theorem refresh_of_cache_error {e : CacheError}
    (hrun : (b.debase r).run st = (.error (.cache e), st')) :
    ∃ output left, b.Called r st (.ok output) left ∧ output.succeeded = true ∧
      left.files.isFile b.cwd r.manifestPath = true ∧
      (Builder.sidecar r).refresh left.files b.cwd (b.fingerprintInputs r) = .error e := by
  have hends := debased_run b r st
  rw [hrun] at hends
  cases hends with
  | notRefreshed called succeeded written failed =>
    exact ⟨_, _, called, succeeded, written, failed⟩

/-- **A fingerprint that is of no use is as good as none.** Where the file of the fingerprint holds
anything but the fingerprint of the present files, the step does what it does without that file: it
comes to the same result, with the same tool call if any, and leaves the same files, and the same
fingerprint if it ends well. And whatever cannot be read, looking for the fingerprint does not fail:
the work is not up to date then, and an error about a fingerprint comes from taking it anew. -/
theorem fails_open :
    (∀ (b : Builder σ) (r : Request) (st : BuildState (List Call × σ)) (files₀ : FileTree)
      (l : Location),
      st.files.locate b.cwd (Builder.sidecar r).path = .ok l → files₀.Lacks st.files l →
      ¬ b.UpToDate r st.files → b.ApartBefore r st.files l →
      b.runner.Overlooks (b.debaseInvocation r) st.tools.2 l
        (b.debaseFiles r st.files) (b.debaseFiles r files₀) →
      (∀ answer left, b.logging.Called r st answer left → b.ApartAfter r left.files l) →
      ∃ result st' st₀' calls,
        (b.logging.debase r).run st = (result, st') ∧
        (b.logging.debase r).run { st with files := files₀ } = (result, st₀') ∧
        b.logging.SameWithout r l st result st' st₀' ∧
        st'.tools.1 = st.tools.1 ++ calls ∧
        (calls = [] ∨ ∃ answer, calls = [(b.debaseInvocation r, answer)])) ∧
    ∀ (b : Builder σ) (r : Request) (st : BuildState σ),
      (∀ e, (Builder.sidecar r).load st.files b.cwd = .error e ∨
        (b.fingerprintInputs r).compute st.files b.cwd = .error e →
        (Builder.sidecar r).isFresh st.files b.cwd (b.fingerprintInputs r) = false ∧
          ¬ b.UpToDate r st.files) ∧
      ∀ e st', (b.debase r).run st = (.error (.cache e), st') →
        ∃ output left, b.Called r st (.ok output) left ∧ output.succeeded = true ∧
          left.files.isFile b.cwd r.manifestPath = true ∧
          (Builder.sidecar r).refresh left.files b.cwd (b.fingerprintInputs r) = .error e := by
  refine ⟨?_, fun b r st => ⟨fun e hunreadable => ?_, fun e st' => refresh_of_cache_error⟩⟩
  · intro b r st files₀ l hlocated hlacks hstale hbefore hoverlooks hafter
    have hends := debased_run b.logging r st
    rcases hrun : (b.logging.debase r).run st with ⟨result, st'⟩
    rw [hrun] at hends
    obtain ⟨st₀', hends₀, hsame⟩ := sameWithout_of_debased hends hlacks hlocated
      (fun hfresh => hstale ⟨hfresh.target, hfresh.manifest, hfresh.kept, hfresh.fresh⟩)
      ⟨hbefore.target, hbefore.libDir⟩ (overlooks_logging hoverlooks)
      (fun answer left called =>
        have happart := hafter answer left called
        ⟨happart.inputs, happart.tool, happart.target, happart.sidecar⟩)
    obtain ⟨calls, hlog, hcalls⟩ := hends.log
    exact ⟨result, st', st₀', calls, rfl, hends₀.run_eq, hsame, hlog, hcalls⟩
  · have hfresh : (Builder.sidecar r).isFresh st.files b.cwd (b.fingerprintInputs r) = false := by
      rw [← Bool.not_eq_true, Sidecar.isFresh_iff]
      rintro ⟨hash, hload, hcompute⟩
      rcases hunreadable with h | h
      · simp [hload] at h
      · simp [hcompute] at h
    refine ⟨hfresh, fun hup => ?_⟩
    have hyes := (upToDate_iff.1 hup).2
    simp [isUpToDate, hfresh] at hyes

/-- A path that leads to another place, in a form that can be decided. -/
theorem locate_ne {p : Path} (h : (files.locate b.cwd p).toOption ≠ some l) :
    files.locate b.cwd p ≠ .ok l := by
  intro hp
  rw [hp] at h
  exact h rfl

/-- Paths that lead somewhere do not go on after a file. -/
theorem ApartAfter.of_located
    (hthere : ∀ p ∈ (Builder.sidecar r).path :: (b.fingerprintInputs r).paths,
      (files.locate b.cwd p).toOption.isSome = true)
    (hne : ∀ p ∈ (b.fingerprintInputs r).paths, (files.locate b.cwd p).toOption ≠ some l) :
    b.ApartAfter r files l := by
  have hthrough : ∀ p ∈ (Builder.sidecar r).path :: (b.fingerprintInputs r).paths,
      ¬ files.LeadsThrough l b.cwd p := by
    intro p hp
    have hsome := hthere p hp
    rcases hm : files.locate b.cwd p with fault | m
    · simp [hm, Except.toOption] at hsome
    · exact FileTree.not_leadsThrough_of_locate hm
  obtain ⟨hsidecar, hpaths⟩ := List.forall_mem_cons.1 hthrough
  obtain ⟨htool, htarget, -⟩ := FingerprintInputs.forall_mem_paths.1 hpaths
  exact ⟨fun p hp => locate_ne (hne p hp), htool, htarget, hsidecar⟩

/-! ### The small build with a fingerprint that is of no use -/

/-- The small build has been carried out, and the file of the fingerprint holds no text. -/
def junkTree : FileTree :=
  { entries := [("debase", .file [1] true), ("w", .directory [("app.bc", .file [2] false),
      ("app.bc.xxh3", .file [0xff] false),
      ("lib", .directory [("app.json", .file smallManifest false)])])] }

/-- The small build starts there. -/
def junkState : BuildState (List Call × Unit) := ⟨junkTree, ([], ()), .empty⟩

/-- The first tool of the small build overlooks every file but its manifest. -/
theorem overlooks_small {t t₀ : FileTree} {manifest : Location} (h : t₀.Lacks t l)
    (hmanifest : t.locate [] ⟨"/w/lib/app.json"⟩ = .ok manifest) (hne : manifest ≠ l) :
    smallBuilder.runner.Overlooks (smallBuilder.debaseInvocation smallRequest) () l t t₀ := by
  have hfails : ∀ {i : Invocation} {t : FileTree} {fault : FileFault},
      i.program = ⟨"/debase"⟩ ∧ i.arguments.head? = some "/w/app.bc" →
      t.write [] ⟨"/w/lib/app.json"⟩ smallManifest = .error fault →
      smallBuilder.runner.run i t () = (.error fault, t, ()) := by
    intro i t fault hi hwrite
    simp [smallBuilder, hi, hwrite]
  have hwrites : ∀ {i : Invocation} {t t' : FileTree},
      i.program = ⟨"/debase"⟩ ∧ i.arguments.head? = some "/w/app.bc" →
      t.write [] ⟨"/w/lib/app.json"⟩ smallManifest = .ok t' →
      smallBuilder.runner.run i t () = (.ok { code := some 0 }, t', ()) := by
    intro i t t' hi hwrite
    simp [smallBuilder, hi, hwrite]
  have hcall : (smallBuilder.debaseInvocation smallRequest).program = ⟨"/debase"⟩ ∧
      (smallBuilder.debaseInvocation smallRequest).arguments.head? = some "/w/app.bc" := by decide
  rcases h.write (by decide) (by rw [hmanifest]; simpa using hne)
    (FileTree.not_leadsThrough_of_locate hmanifest) smallManifest with
    ⟨fault, hwrite, hwrite₀⟩ | ⟨t', t₀', hwrite, hwrite₀, h', hkept⟩
  · exact .of_run (hfails hcall hwrite) (hfails hcall hwrite₀) h rfl
  · exact .of_run (hwrites hcall hwrite) (hwrites hcall hwrite₀) h' hkept

/-- Nothing but the fingerprint of the small build is looked at in its file. -/
theorem apartBefore_junk :
    smallBuilder.ApartBefore smallRequest junkState.files ["w", "app.bc.xxh3"] where
  target := locate_ne (by decide +kernel)
  libDir := FileTree.isClear_of_located (by decide +kernel)

/-- The small build starts again, and the first tool is called as if there were no file for the
fingerprint. -/
theorem fails_open_small :
    ¬ smallBuilder.UpToDate smallRequest junkState.files ∧
    ∃ result st' st₀' calls,
      (smallBuilder.logging.debase smallRequest).run junkState = (result, st') ∧
      (smallBuilder.logging.debase smallRequest).run
        { junkState with files := junkTree.removeBelow ["w", "app.bc.xxh3"] } = (result, st₀') ∧
      smallBuilder.logging.SameWithout smallRequest ["w", "app.bc.xxh3"] junkState result st' st₀' ∧
      st'.tools.1 = junkState.tools.1 ++ calls ∧
      (calls = [] ∨ ∃ answer, calls = [(smallBuilder.debaseInvocation smallRequest, answer)]) := by
  have hlacks : (junkTree.removeBelow ["w", "app.bc.xxh3"]).Lacks junkState.files
      ["w", "app.bc.xxh3"] := FileTree.lacks_removeBelow rfl
  have hlocated : junkState.files.locate smallBuilder.cwd (Builder.sidecar smallRequest).path =
      .ok ["w", "app.bc.xxh3"] := by rfl
  have hstale : ¬ smallBuilder.UpToDate smallRequest junkState.files := by
    rw [upToDate_iff]
    decide +kernel
  have hmade := (hlacks.createDirectories apartBefore_junk.libDir).2
  have hmanifest : (smallBuilder.debaseFiles smallRequest junkState.files).locate []
      ⟨"/w/lib/app.json"⟩ = .ok ["w", "lib", "app.json"] := by rfl
  refine ⟨hstale, fails_open.1 smallBuilder smallRequest junkState _ _ hlocated hlacks hstale
    apartBefore_junk (overlooks_small hmade hmanifest (by decide)) fun answer left called => ?_⟩
  rw [← called.eq_debaseCall.2]
  exact .of_located (by decide +kernel) (by decide +kernel)

/-! ### Paths that go on after the file -/

/-- Why the first step stops, if it does. -/
def stop? : Except BuildError DebaseOutcome → Option BuildError
  | .error e => some e
  | .ok _ => none

/-- A build whose first tool does nothing and is found by a path that goes on after the file of the
fingerprint. -/
def roundaboutBuilder : Builder Unit where
  runner.run _ files tools := (.ok { code := some 0 }, files, tools)
  toolchain := ⟨⟨"/w/app.bc.xxh3/../../debase"⟩, ⟨"/llc"⟩⟩
  lowering := {}
  cwd := []

/-- **A fingerprint that is of no use is not always as good as none.** A path that goes on after its
file tells the two apart, although the file is none of those that are hashed and the tool overlooks
it. -/
theorem not_fails_open :
    ¬ ∀ (b : Builder Unit) (r : Request) (st : BuildState Unit) (files₀ : FileTree) (l : Location),
      st.files.locate b.cwd (Builder.sidecar r).path = .ok l → files₀.Lacks st.files l →
      (Builder.sidecar r).isFresh st.files b.cwd (b.fingerprintInputs r) = false →
      (∀ p ∈ (b.fingerprintInputs r).paths, st.files.locate b.cwd p ≠ .ok l) →
      (∀ p ∈ (b.fingerprintInputs r).paths, (b.filesLeft r st).locate b.cwd p ≠ .ok l) →
      (∀ i tools t t₀, t₀.Lacks t l → b.runner.Overlooks i tools l t t₀) →
      ((b.debase r).run { st with files := files₀ }).1 = ((b.debase r).run st).1 := by
  intro h
  have hlacks : (junkTree.removeBelow ["w", "app.bc.xxh3"]).Lacks junkState.forget.files
      ["w", "app.bc.xxh3"] := FileTree.lacks_removeBelow rfl
  have hlocated : junkState.forget.files.locate roundaboutBuilder.cwd
      (Builder.sidecar smallRequest).path = .ok ["w", "app.bc.xxh3"] := by rfl
  have hstale : (Builder.sidecar smallRequest).isFresh junkState.forget.files roundaboutBuilder.cwd
      (roundaboutBuilder.fingerprintInputs smallRequest) = false := by decide +kernel
  have hbefore : ∀ p ∈ (roundaboutBuilder.fingerprintInputs smallRequest).paths,
      junkState.forget.files.locate roundaboutBuilder.cwd p ≠ .ok ["w", "app.bc.xxh3"] := by
    intro p hp
    apply locate_ne
    revert p
    decide +kernel
  have hafter : ∀ p ∈ (roundaboutBuilder.fingerprintInputs smallRequest).paths,
      (roundaboutBuilder.filesLeft smallRequest junkState.forget).locate roundaboutBuilder.cwd p ≠
        .ok ["w", "app.bc.xxh3"] := by
    intro p hp
    apply locate_ne
    revert p
    decide +kernel
  have hoverlooks : ∀ i tools t t₀, t₀.Lacks t ["w", "app.bc.xxh3"] →
      roundaboutBuilder.runner.Overlooks i tools ["w", "app.bc.xxh3"] t t₀ :=
    fun i tools t t₀ hl => .of_run rfl rfl hl rfl
  have hsame := h roundaboutBuilder smallRequest junkState.forget
    (junkTree.removeBelow ["w", "app.bc.xxh3"]) ["w", "app.bc.xxh3"] hlocated hlacks hstale
    hbefore hafter hoverlooks
  have hstop : stop? ((roundaboutBuilder.debase smallRequest).run
        { junkState.forget with files := junkTree.removeBelow ["w", "app.bc.xxh3"] }).1 ≠
      stop? ((roundaboutBuilder.debase smallRequest).run junkState.forget).1 := by
    decide +kernel
  exact hstop (congrArg stop? hsame)

/-- Both runs of that build fail, but they give different reasons. -/
example :
    let without : BuildState Unit := ⟨junkTree.removeBelow ["w", "app.bc.xxh3"], (), .empty⟩
    stop? ((roundaboutBuilder.debase smallRequest).run junkState.forget).1 =
        some (.cache (.file roundaboutBuilder.toolchain.debase .notDirectory)) ∧
      stop? ((roundaboutBuilder.debase smallRequest).run without).1 =
        some (.cache (.file roundaboutBuilder.toolchain.debase .notFound)) := by
  decide +kernel

/-- The path of the fingerprint is a link to a file in the place of the directory for the units. -/
def crowdedTree : FileTree :=
  { entries := [("debase", .file [1] true), ("w", .directory [("app.bc", .file [2] false),
      ("app.bc.xxh3", .link ⟨"lib"⟩), ("lib", .file [0xff] false)])] }

/-- With that file there is no place for the units; without it there is one, but then there is none
for the fingerprint. -/
example :
    let without : BuildState Unit := ⟨crowdedTree.removeBelow ["w", "lib"], (), .empty⟩
    stop? ((smallBuilder.debase smallRequest).run ⟨crowdedTree, (), .empty⟩).1 =
        some (.file smallRequest.libDir .alreadyExists) ∧
      stop? ((smallBuilder.debase smallRequest).run without).1 =
        some (.cache (.file (Builder.sidecar smallRequest).path .isDirectory)) := by
  decide +kernel

end Builder

end ModuleBuild
