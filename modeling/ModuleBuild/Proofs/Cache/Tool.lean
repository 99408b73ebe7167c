import ModuleBuild.Command.Run
import ModuleBuild.Proofs.Build.Objects

/-!
# Which tool the fingerprint is taken of

The path of the first tool is used twice. The fingerprint is taken of the file to which it leads
from the working directory, and a call runs the program to which it leads from the directory of the
call, which is the output directory. An absolute path leads to the same file from both of them.

## Relative paths

A relative path does not, unless the output directory is the working directory. The path of the tool
is relative if it is given so, or if it is a bare name that is found in a relative directory of the
search path. Then the fingerprint can be that of a file that is never run, or of none at all;
`Command.not_always_same_tool` shows two tools of which one is run and the other is hashed.

## Main definitions

* `SearchPath.foundIn?` — the directory in which a bare name is found
* `Command.ToolUse` — the path of the first tool, its two uses and where it comes from

## Main results

* `SearchPath.resolve_eq`, `SearchPath.isAbsolute_resolve_iff` — which path a name stands for
* `Path.join_eq_join_iff` — when a path leads on from two directories in the same way
* `Machine.exists_program_of_answer` — the program that a call runs
* `Command.tool_use` — the two uses of the path of the first tool
* `Command.not_always_same_tool` — they need not be uses of one file
-/

namespace ModuleBuild

/-! ### Absolute and relative paths -/

namespace Path

variable {base base' p : Path}

/-- A path below another one is absolute if one of the two is. -/
theorem isAbsolute_join_iff :
    (base.join p).isAbsolute = true ↔ p.isAbsolute = true ∨ base.isAbsolute = true := by
  constructor
  · intro h
    rcases hp : p.isAbsolute with _ | _
    · rcases hbase : base.text.toList with _ | ⟨c, rest⟩
      · have hempty : base = ⟨""⟩ := by
          rw [← String.toList_eq_nil_iff.1 hbase]
        rw [hempty, join_empty, hp] at h
        exact absurd h Bool.false_ne_true
      · have hhead : (base.join p).text.toList.head? = some c := by
          unfold join
          rw [if_neg (by simp [hp])]
          split <;> simp [hbase]
        right
        simp only [isAbsolute, hhead, beq_iff_eq] at h
        simp [isAbsolute, hbase, h]
    · exact .inl rfl
  · rintro (hp | hbase)
    · rw [join_of_isAbsolute base hp, hp]
    · exact isAbsolute_join hbase p

/-- Below two directories a path is the same if it is absolute, or if they are the same up to a
slash at the end. -/
theorem join_eq_join_iff :
    base.join p = base'.join p ↔ p.isAbsolute = true ∨ base.join ⟨""⟩ = base'.join ⟨""⟩ := by
  rcases hp : p.isAbsolute with _ | _
  · obtain ⟨front, hfront⟩ := exists_front base
    obtain ⟨front', hfront'⟩ := exists_front base'
    rw [hfront p hp, hfront' p hp, hfront ⟨""⟩ rfl, hfront' ⟨""⟩ rfl]
    simp [String.append_left_inj]
  · simp [join_of_isAbsolute _ hp]

end Path

/-- An absolute path leads to the same from everywhere. -/
theorem FileTree.entry_of_isAbsolute {p : Path} (hp : p.isAbsolute = true) (t : FileTree)
    (l l' : Location) : t.entry l p = t.entry l' p := by
  simp [entry, locate, startOf, hp]

/-! ### Names of tools -/

namespace SearchPath

variable {s : SearchPath} {files : FileTree} {cwd : Location} {name : Path}

/-- The directory of the search path in which a bare name is found. -/
def foundIn? (s : SearchPath) (files : FileTree) (cwd : Location) (name : Path) : Option Path :=
  if isBare name then
    ((s.text.map split).getD []).find? fun dir => files.isFile cwd (dir.join name)
  else none

/-- A name stands for the file that is found, or for itself. -/
theorem resolve_eq (s : SearchPath) (files : FileTree) (cwd : Location) (name : Path) :
    s.resolve files cwd name =
      ((s.foundIn? files cwd name).map fun dir => dir.join name).getD name := by
  unfold resolve foundIn?
  rcases s.text with _ | text
  · simp
  · by_cases hbare : isBare name = true
    · simp only [hbare, if_true, Option.map_some, Option.getD_some, List.find?_map]
      rfl
    · simp [hbare]

/-- **Which names stand for an absolute path.** -/
theorem isAbsolute_resolve_iff : (s.resolve files cwd name).isAbsolute = true ↔
    name.isAbsolute = true ∨
      ∃ dir, s.foundIn? files cwd name = some dir ∧ dir.isAbsolute = true := by
  rw [resolve_eq]
  rcases s.foundIn? files cwd name with _ | dir
  · simp
  · simp [Path.isAbsolute_join_iff]

end SearchPath

/-! ### Calls of tools -/

namespace Machine

variable {m : Machine} {cwd : Location} {i : Invocation} {files : FileTree} {f : Finished}

/-- A program that is run is a file that may be run. -/
theorem entry_of_execute {depth : Nat} {p : Path} {task : Task} {system : System}
    {ended : Ending × System} (h : execute (depth + 1) p task system = .ok ended) :
    ∃ l content, system.files.entry task.cwd p = .ok (l, .file content true) := by
  rcases hentry : system.files.entry task.cwd p with fault | ⟨l, e⟩
  · simp [execute, scriptLimit, load, hentry, bind, Except.bind] at h
  · cases e with
    | file content runnable =>
      cases runnable with
      | true => exact ⟨l, content, rfl⟩
      | false => simp [execute, scriptLimit, load, hentry, bind, Except.bind] at h
    | directory | link | device => simp [execute, scriptLimit, load, hentry, bind, Except.bind] at h

/-- A call of a program with a slash in its path starts a task in the directory of the call, and
runs the program to which the path leads. -/
theorem exists_execute_of_answer (hslash : '/' ∈ i.program.text.toList)
    (h : m.answer cwd i files = .ok f) :
    ∃ place task system ended, files.entry cwd i.cwd = .ok (place, .directory) ∧
      task.cwd = place ∧ system.files = files ∧
      execute depthLimit i.program task system = .ok ended := by
  have hcandidates : ∀ (task : Task) (system : System), task.name = i.program.text →
      Launch.run (execute depthLimit) m.searchPath task system =
        execute depthLimit i.program task system := by
    intro task system hname
    have hne : i.program.text.isEmpty = false := by
      rcases hempty : i.program.text.isEmpty with _ | _
      · rfl
      · rw [String.isEmpty_iff.1 hempty] at hslash
        simp at hslash
    simp [Launch.run, SearchPath.candidates, hname, hne, hslash, bind, Except.bind]
  unfold answer at h
  simp only [bind, Except.bind, pure, Except.pure, throw, throwThe, MonadExceptOf.throw] at h
  split at h
  · simp at h
  rcases hentry : files.entry cwd i.cwd with fault | ⟨place, e⟩
  · simp [hentry] at h
  cases e with
  | file | device | link => simp [hentry] at h
  | directory =>
    simp only [hentry] at h
    split at h
    · simp at h
    · rename_i ended hrun
      rw [hcandidates _ _ rfl] at hrun
      exact ⟨place, _, _, ended, rfl, rfl, rfl, hrun⟩

/-- **The program that a call runs** is in the file to which its path leads from the directory of
the call. -/
theorem exists_program_of_answer (hslash : '/' ∈ i.program.text.toList)
    (h : m.answer cwd i files = .ok f) :
    ∃ place l content, files.entry cwd i.cwd = .ok (place, .directory) ∧
      files.entry place i.program = .ok (l, .file content true) := by
  obtain ⟨place, task, system, ended, hentry, rfl, rfl, hrun⟩ := exists_execute_of_answer hslash h
  obtain ⟨l, content, hfile⟩ := entry_of_execute hrun
  exact ⟨task.cwd, l, content, hentry, hfile⟩

end Machine

namespace Command

variable {σ : Type} {m : Machine} {files : FileTree} {a : BuildArguments} {c : Config}
  {b : Builder σ}

/-- The path of the first tool, its two uses and where it comes from. -/
structure ToolUse (m : Machine) (files : FileTree) (a : BuildArguments) (c : Config)
    (b : Builder σ) (r : Request) : Prop where
  /-- The fingerprint is taken of the tool that is called. -/
  tool_eq : (b.fingerprintInputs r).tool = (b.debaseInvocation r).program
  /-- It is called in the output directory. -/
  cwd_eq : (b.debaseInvocation r).cwd = r.outputDir
  /-- Its path is the same from the working directory and from the output directory exactly if it is
  absolute, or if they are one directory. -/
  seen_eq_iff : (pathOf b.cwd).join b.toolchain.debase = r.outputDir.join b.toolchain.debase ↔
    b.toolchain.debase.isAbsolute = true ∨ (pathOf b.cwd).join ⟨""⟩ = r.outputDir.join ⟨""⟩
  /-- It is absolute exactly if the name of the tool is, or is found in an absolute directory. -/
  isAbsolute_iff : b.toolchain.debase.isAbsolute = true ↔
    (Path.ofText (a.debaseTool.getD c.debase)).isAbsolute = true ∨
      ∃ dir, m.searchPath.foundIn? files b.cwd (.ofText (a.debaseTool.getD c.debase)) = some dir ∧
        dir.isAbsolute = true
  /-- If it has a slash, then a call runs the program to which it leads from the output directory.
  The bytes of that program are those that the fingerprint is taken of if the path is absolute, or
  if the output directory is the working directory. -/
  runs : '/' ∈ b.toolchain.debase.text.toList → ∀ t f,
    m.answer b.cwd (b.debaseInvocation r) t = .ok f →
    ∃ place l content, t.entry b.cwd r.outputDir = .ok (place, .directory) ∧
      t.entry place b.toolchain.debase = .ok (l, .file content true) ∧
      (b.toolchain.debase.isAbsolute = true ∨ place = b.cwd →
        FingerprintInputs.readInput t b.cwd (b.fingerprintInputs r).tool = .ok content)

/-- **The two uses of the path of the first tool.** -/
theorem tool_use (htool : b.toolchain = toolchain m.searchPath files b.cwd a c) (r : Request) :
    ToolUse m files a c b r := by
  constructor
  case tool_eq => rfl
  case cwd_eq => rfl
  case seen_eq_iff => exact Path.join_eq_join_iff
  case isAbsolute_iff =>
    rw [htool]
    exact SearchPath.isAbsolute_resolve_iff
  case runs =>
    intro hslash t f hanswer
    obtain ⟨place, l, content, hplace, hfile⟩ := Machine.exists_program_of_answer hslash hanswer
    replace hfile : t.entry place b.toolchain.debase = .ok (l, .file content true) := hfile
    refine ⟨place, l, content, hplace, hfile, fun hsame => ?_⟩
    have hentry : t.entry b.cwd b.toolchain.debase = .ok (l, .file content true) := by
      rcases hsame with habsolute | rfl
      · rw [FileTree.entry_of_isAbsolute habsolute t b.cwd place, hfile]
      · exact hfile
    have htool : (b.fingerprintInputs r).tool = b.toolchain.debase := rfl
    simp [FingerprintInputs.readInput, FileTree.read, htool, hentry, bind, Except.bind, pure,
      Except.pure]

/-- Two tools of one name, the one in a directory of the working directory and the other in one of
the output directory. -/
def twoTools : FileTree :=
  { entries := [("out", .directory [("tools", .directory [("debase", .file [2] true)])]),
      ("tools", .directory [("debase", .file [1] true)])] }

/-- A build in a directory below the working directory. -/
def belowArguments : BuildArguments := { target := "app.bc", outputDir := some "out" }

/-- What such a build is carried out with if tools are looked for in a directory. -/
def lookingBuilder (dir : String) : Builder Unit where
  runner.run _ files tools := (.ok { code := some 0 }, files, tools)
  toolchain := toolchain ⟨some dir⟩ twoTools [] belowArguments {}
  lowering := {}
  cwd := []

/-- A tool that is found in an absolute directory is the same from everywhere. -/
theorem tool_use_absolute :
    (lookingBuilder "/tools").toolchain = toolchain ⟨some "/tools"⟩ twoTools [] belowArguments {} ∧
    ∃ r, Request.ofOptions (pathOf []) (requestOptions belowArguments {}) = .ok r ∧
      ToolUse ⟨⟨some "/tools"⟩⟩ twoTools belowArguments {} (lookingBuilder "/tools") r ∧
      (pathOf []).join (lookingBuilder "/tools").toolchain.debase =
        r.outputDir.join (lookingBuilder "/tools").toolchain.debase := by
  refine ⟨rfl, _, rfl, ?_⟩
  have huse := fun r => tool_use (m := ⟨⟨some "/tools"⟩⟩) (b := lookingBuilder "/tools") rfl r
  exact ⟨huse _, (huse _).seen_eq_iff.2 (.inl (by decide +kernel))⟩

/-- **The tool that is run is not always the one that the fingerprint is taken of.** A tool that is
found in a relative directory has another path from the output directory, and other bytes can be
there. -/
theorem not_always_same_tool :
    (¬ ∀ (s : SearchPath) (files : FileTree) (cwd : Location) (a : BuildArguments) (c : Config)
        (r : Request), Request.ofOptions (pathOf cwd) (requestOptions a c) = .ok r →
      '/' ∈ (toolchain s files cwd a c).debase.text.toList →
        (pathOf cwd).join (toolchain s files cwd a c).debase =
          r.outputDir.join (toolchain s files cwd a c).debase) ∧
    ¬ ∀ (s : SearchPath) (b : Builder Unit) (r : Request) (t : FileTree) (place l : Location)
        (content : Bytes),
      Request.ofOptions (pathOf b.cwd) (requestOptions belowArguments {}) = .ok r →
      b.toolchain = toolchain s t b.cwd belowArguments {} →
      '/' ∈ b.toolchain.debase.text.toList →
      t.entry b.cwd r.outputDir = .ok (place, .directory) →
      t.entry place b.toolchain.debase = .ok (l, .file content true) →
        FingerprintInputs.readInput t b.cwd (b.fingerprintInputs r).tool = .ok content := by
  constructor
  · intro h
    exact absurd (h ⟨some "tools"⟩ twoTools [] belowArguments {} _ rfl (by decide +kernel))
      (by decide +kernel)
  · intro h
    have hrun := h ⟨some "tools"⟩ (lookingBuilder "tools") _ twoTools ["out"]
      ["out", "tools", "debase"] [2] rfl rfl (by decide +kernel) rfl rfl
    have hread : (FingerprintInputs.readInput twoTools [] ⟨"tools/debase"⟩).toOption =
        some [1] := by decide +kernel
    have htool : (lookingBuilder "tools").toolchain.debase = ⟨"tools/debase"⟩ := by decide +kernel
    simp only [Builder.fingerprintInputs, htool] at hrun
    rw [show (lookingBuilder "tools").cwd = [] from rfl] at hrun
    simp [hrun, Except.toOption] at hread

end Command

end ModuleBuild
