import ModuleBuild.Build.Pipeline
import ModuleBuild.Command.Arguments
import ModuleBuild.Command.Console
import ModuleBuild.Config.Basic
import ModuleBuild.Diagnostic.Document
import ModuleBuild.Diagnostic.Render
import ModuleBuild.Process.Search

/-!
# The command that builds

The configuration is completed by the command line, the build is carried out step by step with a
line of progress after each step, and the diagnostics are shown at the end.

## Main definitions

* `Command.findConfig` — the configuration of a build
* `Command.requestOptions`, `Command.loweringOptions`, `Command.toolchain` — the command line over
  the configuration
* `Command.buildSteps` — the steps of a build with their lines of progress
* `Command.execute` — the whole command, with the exit code
-/

namespace ModuleBuild

namespace Command

variable {σ : Type}

/-! ### Before the build -/

/-- The configuration: that of the file that is named, or of the one in the output directory if
there is one. -/
def findConfig (files : FileTree) (cwd : Location) (a : BuildArguments) (g : GlobalOptions) :
    Except ConfigError Config :=
  match g.config with
  | some path => Config.load files cwd (.ofText path)
  | none =>
    let candidate := (Path.ofText (a.outputDir.getD "")).join (.ofText Config.fileName)
    if files.isFile cwd candidate then Config.load files cwd candidate else .ok {}

/-- The wishes on the command line, and behind them those in the configuration. -/
def requestOptions (a : BuildArguments) (c : Config) : RequestOptions where
  target := a.target
  outputDir := a.outputDir.map Path.ofText
  profile := a.profile.getD c.profile
  framePointer := a.framePointer.getD c.framePointer
  files := a.files
  passthrough := a.passthrough
  manifestName := a.manifest.getD c.manifest
  archive := a.archive
  response := a.response

/-- How units are lowered; at least one at a time. -/
def loweringOptions (a : BuildArguments) (c : Config) : LoweringOptions where
  regalloc := if c.regalloc.isEmpty then none else some c.regalloc
  jobs := max (a.jobs.getD c.jobs) 1

/-- The tools, which are looked for by their names. -/
def toolchain (s : SearchPath) (files : FileTree) (cwd : Location) (a : BuildArguments)
    (c : Config) : Toolchain where
  debase := s.resolve files cwd (.ofText (a.debaseTool.getD c.debase))
  llc := s.resolve files cwd (.ofText (a.loweringTool.getD c.llc))

/-! ### Lines of progress -/

/-- Prints a line unless the command is to be quiet. -/
def progress (g : GlobalOptions) (line : String) : Step (Printing σ) Unit :=
  changeConsole fun console => if g.quiet then console else console.reportLine line

/-- Prints a line of output if the command is to dump. -/
def dump (a : BuildArguments) (line : String) : Step (Printing σ) Unit :=
  changeConsole fun console => if a.dump then console.printLine line else console

/-- Prints lines of output if the command is to dump. -/
def dumpAll (a : BuildArguments) : List String → Step (Printing σ) Unit
  | [] => pure ()
  | line :: rest => do
    dump a line
    dumpAll a rest

/-- The line about the first step. -/
def debaseLine (r : Request) (outcome : DebaseOutcome) : String :=
  if outcome.cached then s!"     Fresh {r.target.shown}" else s!"   Debasing {r.target.shown}"

/-- The line about the second step. -/
def lowerLine (r : Request) (report : LoweringReport) : String :=
  s!"   Lowering {report.total} unit(s) ({r.profile.name})"

/-- The line about the third step. -/
def publishedLine (r : Request) : Published → String
  | .response path =>
    let path := (path.relativeTo? r.outputDir).getD path
    s!"  Generated response file \"@{path.shown}\""
  | .archive (some name) _ => s!"  Generated archive {name}"
  | .archive none _ => "  Generated archive"

/-- The steps of a build with their lines. -/
def buildSteps (b : Builder (Printing σ)) (r : Request) (a : BuildArguments) (g : GlobalOptions) :
    Step (Printing σ) BuildOutcome := do
  let debase ← b.debaseStep r
  dumpAll a (debase.invocation.map Invocation.line).toList
  progress g (debaseLine r debase)
  let lower ← b.lowerStep r debase.manifestPath
  progress g (lowerLine r lower)
  dumpAll a (lower.objects.map Path.shown)
  let published ← b.publishStep r lower
  return { debase, lower, published }

/-! ### The end -/

/-- The diagnostics that are shown: those of the build, and then the one for the reason that stopped
it. Notes are shown as text only on demand. -/
def shownDiagnostics (a : BuildArguments) (g : GlobalOptions) (held : List Diagnostic)
    (stopped : Option BuildError) : List Diagnostic :=
  let all := a.format = .json ∨ g.verbose
  (if all then held else held.filter (·.severity ≠ .note)) ++
    (stopped.map BuildError.toDiagnostic).toList

/-- How many of some diagnostics are errors. -/
def errorCount (l : List Diagnostic) : Nat := l.countP (·.severity.isError)

/-- Shows diagnostics, if there are any. -/
def showDiagnostics (a : BuildArguments) (g : GlobalOptions) (l : List Diagnostic)
    (console : Console) : Console :=
  if l.isEmpty then console
  else
    match a.format with
    | .json => console.printLine (Diagnostic.report l)
    | .text =>
      let console := console.report (String.join (l.map (Diagnostic.render g.colour)))
      if g.quiet then console else console.reportLine s!"   Result: {errorCount l} error(s)"

/-- How a command has ended. -/
structure Outcome where
  /-- The exit code. -/
  code : Int
  /-- What was printed. -/
  console : Console
  /-- The files as the command leaves them. -/
  files : FileTree

/-- Carries out a build and shows what is to be shown. The tools start in the state `tools`. -/
def execute (b : Builder σ) (r : Request) (a : BuildArguments) (g : GlobalOptions)
    (files : FileTree) (tools : σ) : Outcome × σ :=
  let start : BuildState (Printing σ) := { files, tools := ⟨{}, tools⟩ }
  match (buildSteps (echoingBuilder g.verbose b) r a g).run start with
  | (.ok outcome, st) =>
    let console := st.tools.console
    let console :=
      if g.quiet then console else console.reportLine (publishedLine r outcome.published)
    let shown := shownDiagnostics a g st.sink.takeAll.1 none
    (⟨0, showDiagnostics a g shown console, st.files⟩, st.tools.tools)
  | (.error e, st) =>
    let shown := shownDiagnostics a g st.sink.takeAll.1 (some e)
    (⟨e.exitCode, showDiagnostics a g shown st.tools.console, st.files⟩, st.tools.tools)

end Command

end ModuleBuild
