import ModuleBuild.Command.Run
import ModuleBuild.Proofs.Build.Attempts
import ModuleBuild.Proofs.Build.Failure

/-!
# Reporting does not change a build

The command that builds carries out the steps of a build itself, with lines of progress between
them, through a runner that may print every call, and shows the diagnostics at the end. All it
prints goes along with the state of the tools, and the view that drops what has been printed shows
the command as the build. So whatever is asked to be printed, and in which format, the tool calls
are those of the build, in its order, and so are the files that are left and the way the build ends.

The exit code says how the build has ended: zero if it ended well, the code of a tool that failed,
and one for every other reason.

## Main definitions

* `Command.codeOf` — the exit code for the end of a build
* `Command.CarriesOut` — what a command has in common with the build that it carries out

## Main results

* `Command.shows_buildSteps` — without what is printed, the steps of the command are the build
* `Command.reporting_changes_nothing` — the command carries out the build, however it reports on it
-/

namespace ModuleBuild

variable {α σ τ : Type}

namespace Command

/-! ### What is printed on the way -/

/-- Without what it prints, a runner that prints its calls is the runner that does not. -/
theorem shows_echoing (verbose : Bool) (runner : Runner σ) :
    (echoing verbose runner).Shows Printing.tools runner := fun _ _ _ => rfl

/-- Of a step that prints nothing is seen. -/
theorem shows_changeConsole (f : Console → Console) :
    (changeConsole f : Step (Printing σ) Unit).Shows Printing.tools (pure ()) := fun _ => rfl

/-- Nothing is seen of lines of which none is seen. -/
theorem shows_dumpAll {view : Printing σ → τ} {a : BuildArguments}
    (hdump : ∀ line, (dump a line : Step (Printing σ) Unit).Shows view (pure ()))
    (lines : List String) : (dumpAll a lines : Step (Printing σ) Unit).Shows view (pure ()) := by
  induction lines with
  | nil => exact Step.shows_pure _
  | cons line rest ih => exact (hdump line).after ih

/-- **Seen through a map that shows nothing of what is printed on the way,** the steps of the
command are a build. -/
theorem shows_buildSteps_of {view : Printing σ → τ} {verbose : Bool} {b : Builder σ}
    {runner : Runner τ} {a : BuildArguments} {g : GlobalOptions}
    (hrunner : (echoing verbose b.runner).Shows view runner)
    (hprogress : ∀ line, (progress g line : Step (Printing σ) Unit).Shows view (pure ()))
    (hdump : ∀ line, (dump a line : Step (Printing σ) Unit).Shows view (pure ())) (r : Request) :
    (buildSteps (echoingBuilder verbose b) r a g).Shows view ((b.withRunner runner).build r) := by
  refine (Builder.shows_debaseStep (b := b.withRunner runner) hrunner).bind fun debase => ?_
  refine (shows_dumpAll hdump _).after <| (hprogress _).after ?_
  refine (Builder.shows_lowerStep (b := b.withRunner runner) hrunner debase.manifestPath).bind
    fun lower => ?_
  refine (hprogress _).after <| (shows_dumpAll hdump _).after ?_
  exact (Builder.shows_publishStep (b := b.withRunner runner) hrunner lower).bind
    fun _ => Step.shows_pure _

/-- **Without what is printed, the steps of the command are the build.** -/
theorem shows_buildSteps (verbose : Bool) (b : Builder σ) (r : Request) (a : BuildArguments)
    (g : GlobalOptions) :
    (buildSteps (echoingBuilder verbose b) r a g).Shows Printing.tools (b.build r) :=
  shows_buildSteps_of (shows_echoing verbose b.runner) (fun _ => shows_changeConsole _)
    (fun _ => shows_changeConsole _) r

/-! ### The command -/

/-- The exit code for the end of a build. -/
def codeOf : Except BuildError α → Int
  | .ok _ => 0
  | .error e => e.exitCode

theorem codeOf_eq_zero_iff {result : Except BuildError α} :
    codeOf result = 0 ↔ ∃ a, result = .ok a := by
  rcases result with e | a
  · simp [codeOf, e.exitCode_ne_zero]
  · simp [codeOf]

variable {b : Builder σ} {r : Request} {a a' : BuildArguments} {g g' : GlobalOptions}
  {files : FileTree} {tools : σ}

/-- A command ends as its steps do, and leaves what they leave. -/
theorem exists_execute_eq {result : Except BuildError BuildOutcome} {st : BuildState (Printing σ)}
    (hrun : (buildSteps (echoingBuilder g.verbose b) r a g).run ⟨files, ⟨{}, tools⟩, .empty⟩ =
      (result, st)) :
    ∃ console, execute b r a g files tools =
      (⟨codeOf result, console, st.files⟩, st.tools.tools) := by
  unfold execute
  extract_lets start
  replace hrun : (buildSteps (echoingBuilder g.verbose b) r a g).run start = (result, st) := hrun
  rw [hrun]
  rcases result with e | outcome
  · exact ⟨_, rfl⟩
  · exact ⟨_, rfl⟩

/-- A command ends as the build does, and leaves what the build leaves. -/
theorem execute_ends (b : Builder σ) (r : Request) (a : BuildArguments) (g : GlobalOptions)
    (files : FileTree) (tools : σ) :
    (execute b r a g files tools).1.code = codeOf ((b.build r).run ⟨files, tools, .empty⟩).1 ∧
    (execute b r a g files tools).1.files = ((b.build r).run ⟨files, tools, .empty⟩).2.files ∧
    (execute b r a g files tools).2 = ((b.build r).run ⟨files, tools, .empty⟩).2.tools := by
  have hshows := shows_buildSteps g.verbose b r a g ⟨files, ⟨{}, tools⟩, .empty⟩
  replace hshows : (b.build r).run ⟨files, tools, .empty⟩ = _ := hshows
  rcases hrun : (buildSteps (echoingBuilder g.verbose b) r a g).run ⟨files, ⟨{}, tools⟩, .empty⟩
    with ⟨result, st⟩
  obtain ⟨console, hexecute⟩ := exists_execute_eq hrun
  rw [hexecute, hshows, hrun]
  exact ⟨rfl, rfl, rfl⟩

/-- What a command that starts on some files has in common with the build that it carries out. The
tool calls and the answers to them are logged on both sides. -/
structure CarriesOut (b : Builder σ) (r : Request) (a : BuildArguments) (g : GlobalOptions)
    (files : FileTree) (tools : σ) : Prop where
  /-- The steps of the command come to the end of the build. -/
  result_eq : ((buildSteps (echoingBuilder g.verbose b.logging) r a g).run
      ⟨files, ⟨{}, ([], tools)⟩, .empty⟩).1 =
    ((b.logging.build r).run ⟨files, ([], tools), .empty⟩).1
  /-- They emit the same diagnostics. -/
  sink_eq : ((buildSteps (echoingBuilder g.verbose b.logging) r a g).run
      ⟨files, ⟨{}, ([], tools)⟩, .empty⟩).2.sink =
    ((b.logging.build r).run ⟨files, ([], tools), .empty⟩).2.sink
  /-- The tools are called in the same way and in the same order, and left in the same state. -/
  tools_eq : (execute b.logging r a g files ([], tools)).2 =
    ((b.logging.build r).run ⟨files, ([], tools), .empty⟩).2.tools
  /-- The same files are left. -/
  files_eq : (execute b.logging r a g files ([], tools)).1.files =
    ((b.logging.build r).run ⟨files, ([], tools), .empty⟩).2.files
  /-- The exit code is zero if the build ends well, and only then. -/
  code_eq_zero_iff : (execute b.logging r a g files ([], tools)).1.code = 0 ↔
    ∃ outcome, ((b.logging.build r).run ⟨files, ([], tools), .empty⟩).1 = .ok outcome
  /-- A tool that fails with a code gives it to the command, and it is not zero. -/
  code_of_toolFailed : ∀ tool code stderr,
    ((b.logging.build r).run ⟨files, ([], tools), .empty⟩).1 =
        .error (.toolFailed tool (some code) stderr) →
      code ≠ 0 ∧ (execute b.logging r a g files ([], tools)).1.code = code
  /-- For any other reason the exit code is one. -/
  code_of_other : ∀ e, ((b.logging.build r).run ⟨files, ([], tools), .empty⟩).1 = .error e →
    (∀ tool code stderr, e ≠ .toolFailed tool (some code) stderr) →
      (execute b.logging r a g files ([], tools)).1.code = 1
  /-- Without the log all this is the same. -/
  forget : (b.build r).run ⟨files, tools, .empty⟩ =
      (((b.logging.build r).run ⟨files, ([], tools), .empty⟩).1,
        ((b.logging.build r).run ⟨files, ([], tools), .empty⟩).2.forget) ∧
    (execute b r a g files tools).1.code = (execute b.logging r a g files ([], tools)).1.code ∧
    (execute b r a g files tools).1.files = (execute b.logging r a g files ([], tools)).1.files ∧
    (execute b r a g files tools).2 = (execute b.logging r a g files ([], tools)).2.2

theorem carriesOut (b : Builder σ) (r : Request) (a : BuildArguments) (g : GlobalOptions)
    (files : FileTree) (tools : σ) : CarriesOut b r a g files tools := by
  have hshows := shows_buildSteps g.verbose b.logging r a g ⟨files, ⟨{}, ([], tools)⟩, .empty⟩
  have hforget : (b.build r).run ⟨files, tools, .empty⟩ =
      (((b.logging.build r).run ⟨files, ([], tools), .empty⟩).1,
        ((b.logging.build r).run ⟨files, ([], tools), .empty⟩).2.forget) :=
    Builder.forgets_build ⟨files, ([], tools), .empty⟩
  obtain ⟨hcode, hfiles, htools⟩ := execute_ends b.logging r a g files ([], tools)
  obtain ⟨hcode', hfiles', htools'⟩ := execute_ends b r a g files tools
  constructor
  case result_eq => exact (congrArg Prod.fst hshows).symm
  case sink_eq => exact (congrArg (fun result => result.2.sink) hshows).symm
  case tools_eq => exact htools
  case files_eq => exact hfiles
  case code_eq_zero_iff => rw [hcode, codeOf_eq_zero_iff]
  case code_of_toolFailed =>
    intro tool code stderr herror
    have hfailure := Builder.ofFailure_of_build herror
    refine ⟨fun hzero => hfailure tool stderr (by rw [hzero]), ?_⟩
    rw [hcode, herror]
    exact hfailure.exitCode_eq
  case code_of_other =>
    intro e herror hother
    rw [hcode, herror]
    cases e with
    | toolFailed tool code stderr =>
      cases code with
      | none => rfl
      | some code => exact absurd rfl (hother tool code stderr)
    | _ => rfl
  case forget =>
    refine ⟨hforget, ?_, ?_, ?_⟩
    · rw [hcode, hcode', hforget]
    · rw [hfiles, hfiles', hforget]
      rfl
    · rw [htools, htools', hforget]
      rfl

/-- Two commands that may differ in how they report, and in nothing else. -/
structure SameBuild (a a' : BuildArguments) (g g' : GlobalOptions) : Prop where
  /-- They differ at most in what is dumped and in the format of the diagnostics. -/
  arguments_eq : a' = { a with dump := a'.dump, format := a'.format }
  /-- They read the same configuration file. -/
  config_eq : g'.config = g.config

/-- **Reporting does not change a build.** A command carries out the build, and the build does not
hang on how the command reports on it: two commands that differ in nothing else make the same calls,
leave the same files, and end with the same exit code. This includes the commands that stop before
there is a request. -/
theorem reporting_changes_nothing (b : Builder σ) (r : Request) (a a' : BuildArguments)
    (g g' : GlobalOptions) (files : FileTree) (tools : σ) :
    CarriesOut b r a g files tools ∧
    (execute b.logging r a' g' files ([], tools)).2 =
      (execute b.logging r a g files ([], tools)).2 ∧
    (execute b.logging r a' g' files ([], tools)).1.files =
      (execute b.logging r a g files ([], tools)).1.files ∧
    (execute b.logging r a' g' files ([], tools)).1.code =
      (execute b.logging r a g files ([], tools)).1.code ∧
    (SameBuild a a' g g' → ∀ (m : Machine) (cwd : Location),
      (runBuild m files cwd a' g').code = (runBuild m files cwd a g).code ∧
      (runBuild m files cwd a' g').files = (runBuild m files cwd a g).files) := by
  obtain ⟨hcode, hfiles, htools⟩ := execute_ends b.logging r a g files ([], tools)
  obtain ⟨hcode', hfiles', htools'⟩ := execute_ends b.logging r a' g' files ([], tools)
  refine ⟨carriesOut b r a g files tools, ?_, ?_, ?_, ?_⟩
  · rw [htools, htools']
  · rw [hfiles, hfiles']
  · rw [hcode, hcode']
  · rintro ⟨harguments, hconfig⟩ m cwd
    have hfound : findConfig files cwd a' g' = findConfig files cwd a g := by
      rw [harguments, findConfig, findConfig, hconfig]
    have hoptions : ∀ c, requestOptions a' c = requestOptions a c := by
      intro c
      rw [harguments]
      rfl
    have hbuilder : ∀ c, loweringOptions a' c = loweringOptions a c ∧
        toolchain m.searchPath files cwd a' c = toolchain m.searchPath files cwd a c := by
      intro c
      rw [harguments]
      exact ⟨rfl, rfl⟩
    unfold runBuild
    rw [hfound]
    rcases findConfig files cwd a g with e | c
    · exact ⟨rfl, rfl⟩
    dsimp only
    rw [hoptions, (hbuilder c).1, (hbuilder c).2]
    rcases Request.ofOptions (pathOf cwd) (requestOptions a c) with e | r'
    · exact ⟨rfl, rfl⟩
    · dsimp only
      rw [(execute_ends _ r' a g files ()).1, (execute_ends _ r' a g files ()).2.1,
        (execute_ends _ r' a' g' files ()).1, (execute_ends _ r' a' g' files ()).2.1]
      exact ⟨rfl, rfl⟩

/-- Tools that fail with code three. -/
def failingBuilder : Builder Unit where
  runner.run _ files tools := (.ok { code := some 3, stderr := "no" }, files, tools)
  toolchain := ⟨⟨"/debase"⟩, ⟨"/llc"⟩⟩
  lowering := {}
  cwd := []

/-- A command line that asks for a target and nothing else. -/
def plainArguments : BuildArguments := { target := "app.bc" }

/-- The same, and what is done is to be dumped. -/
def dumpingArguments : BuildArguments := { plainArguments with dump := true, format := .json }

/-- A quiet command and a talkative one call the first tool once, and end with its code. -/
theorem reporting_changes_nothing_failing :
    SameBuild plainArguments dumpingArguments { quiet := true } { verbose := true } ∧
    (execute failingBuilder.logging Builder.smallRequest plainArguments { quiet := true }
      Builder.smallTree ([], ())).1.code = 3 ∧
    (execute failingBuilder.logging Builder.smallRequest dumpingArguments { verbose := true }
      Builder.smallTree ([], ())).1.code = 3 ∧
    ((execute failingBuilder.logging Builder.smallRequest dumpingArguments { verbose := true }
      Builder.smallTree ([], ())).2.1.map fun call => call.1.program.text) = ["/debase"] ∧
    ∀ (m : Machine) (cwd : Location),
      (runBuild m Builder.smallTree cwd dumpingArguments { verbose := true }).code =
        (runBuild m Builder.smallTree cwd plainArguments { quiet := true }).code := by
  have hsame : SameBuild plainArguments dumpingArguments { quiet := true } { verbose := true } :=
    ⟨rfl, rfl⟩
  have hfailed : codeOf ((failingBuilder.logging.build Builder.smallRequest).run
      ⟨Builder.smallTree, ([], ()), .empty⟩).1 = 3 := by decide +kernel
  obtain ⟨-, -, -, hcode, hrun⟩ := reporting_changes_nothing failingBuilder
    Builder.smallRequest plainArguments dumpingArguments { quiet := true } { verbose := true }
    Builder.smallTree ()
  have hthree : (execute failingBuilder.logging Builder.smallRequest plainArguments
      { quiet := true } Builder.smallTree ([], ())).1.code = 3 := by
    rw [(execute_ends _ _ _ _ _ _).1, hfailed]
  refine ⟨hsame, hthree, ?_, by decide +kernel, ?_⟩
  · rw [hcode, hthree]
  · exact fun m cwd => (hrun hsame m cwd).1

end Command

end ModuleBuild
