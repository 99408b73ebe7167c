import ModuleBuild.Command.Scan
import ModuleBuild.Profile

/-!
# The command line of the program

The program has two commands: `build` and `wait`. Some options stand before or after the name of the
command; a value after it counts more than one before it.

## Main definitions

* `Command.GlobalOptions`, `Command.BuildArguments`, `Command.WaitArguments` — what is asked for
* `Command.Task` — one of the commands
* `Command.parse` — reads a command line
-/

namespace ModuleBuild

namespace Command

/-- How diagnostics are shown. -/
inductive ReportFormat where
  /-- As text. -/
  | text
  /-- As one JSON document. -/
  | json
  deriving DecidableEq

/-- The options of every command. -/
structure GlobalOptions where
  /-- Print nothing but diagnostics. -/
  quiet : Bool := false
  /-- Print every tool call. -/
  verbose : Bool := false
  /-- Colour labels. -/
  colour : Bool := false
  /-- The configuration file. -/
  config : Option String := none
  deriving DecidableEq

/-- The arguments of a build. -/
structure BuildArguments where
  /-- The target module. -/
  target : String
  /-- The input files. -/
  files : List String := []
  /-- The build profile. -/
  profile : Option Profile := none
  /-- The frame-pointer policy. -/
  framePointer : Option FramePointer := none
  /-- The output directory. -/
  outputDir : Option String := none
  /-- The name of the manifest. -/
  manifest : Option String := none
  /-- The flags for the first tool. -/
  passthrough : String := ""
  /-- An archive. -/
  archive : Option String := none
  /-- A response file. -/
  response : Option String := none
  /-- Print the call of the first tool and the objects. -/
  dump : Bool := false
  /-- The first tool. -/
  debaseTool : Option String := none
  /-- The lowering tool. -/
  loweringTool : Option String := none
  /-- How many units are lowered at the same time. -/
  jobs : Option Nat := none
  /-- The format of the diagnostics. -/
  format : ReportFormat := .text
  deriving DecidableEq

/-- The arguments of waiting. -/
structure WaitArguments where
  /-- The path to wait for. -/
  target : String
  /-- How many seconds to wait. -/
  timeout : Nat := 10
  deriving DecidableEq

/-- One of the commands. -/
inductive Task where
  /-- Build a target. -/
  | build (arguments : BuildArguments)
  /-- Wait for a path. -/
  | wait (arguments : WaitArguments)
  deriving DecidableEq

/-! ### Values -/

/-- The number that a text spells, if it has at most 64 bits. A plus sign may stand before it. -/
def number? (s : String) : Option Nat :=
  let digits := match s.toList with
    | '+' :: rest => rest
    | cs => cs
  if digits ≠ [] ∧ digits.all Char.isDigit then
    let n := digits.foldl (fun n c => 10 * n + (c.toNat - 48)) 0
    if n < UInt64.size then some n else none
  else none

/-- When labels can be coloured. -/
def colours : List String := ["auto", "always", "never"]

/-- The formats of diagnostics. -/
def formats : List String := ["text", "json"]

/-! ### Options -/

/-- The options of every command. -/
def globalRules : List Rule :=
  [{ key := .quiet, names := ["quiet"], letter := some 'q', takes := .nothing },
    { key := .verbose, names := ["verbose"], letter := some 'v', takes := .nothing },
    { key := .colour, names := ["color"], accepts := colours.contains },
    { key := .config, names := ["config"] }]

/-- The options before the name of a command. -/
def programRules : List Rule :=
  { key := .version, names := ["version"], letter := some 'V', takes := .nothing } :: globalRules

/-- The options of a build. -/
def buildRules : List Rule :=
  [{ key := .target, names := ["target", "target-name"] },
    { key := .profile, names := ["build-type"], accepts := fun s => (Profile.ofName? s).isSome },
    { key := .framePointer, names := ["frame-pointer"]
      accepts := fun s => (FramePointer.ofName? s).isSome },
    { key := .outputDir, names := ["output-dir"], letter := some 'o' },
    { key := .manifest, names := ["output-filenames", "output-filename"] },
    { key := .passthrough, names := ["passthrough"], anyValue := true },
    { key := .archive, names := ["archive"], takes := .perhaps },
    { key := .response, names := ["rsp", "rsp-name"] },
    { key := .dump, names := ["dump"], letter := some 'D', takes := .nothing },
    { key := .debaseTool, names := ["debase-bin"] },
    { key := .loweringTool, names := ["llc-bin"] },
    { key := .jobs, names := ["jobs"], letter := some 'j', accepts := fun s => (number? s).isSome },
    { key := .format, names := ["format"], letter := some 'f', accepts := formats.contains }] ++
    globalRules

/-- The options of waiting. -/
def waitRules : List Rule :=
  [{ key := .target, names := ["target"] },
    { key := .timeout, names := ["timeout"], accepts := fun s => (number? s).isSome }] ++
    globalRules

/-! ### Reading -/

/-- The options of every command, from before and after its name. -/
def globalOptions (before after : Given) : GlobalOptions :=
  let value? (key : Key) : Option String := (after.value? key).or (before.value? key)
  { quiet := (value? .quiet).isSome
    verbose := (value? .verbose).isSome
    colour := value? .colour == some "always"
    config := value? .config }

/-- The arguments of a build. There must be a target, and there is no archive with a response
file. -/
def buildArguments (g : Given) : Except Refusal BuildArguments := do
  let some target := g.value? .target | throw .usage
  if g.has .archive && g.has .response then throw .usage
  return {
    target
    files := g.operands
    profile := (g.value? .profile).bind Profile.ofName?
    framePointer := (g.value? .framePointer).bind FramePointer.ofName?
    outputDir := g.value? .outputDir
    manifest := g.value? .manifest
    passthrough := (g.value? .passthrough).getD ""
    archive := g.value? .archive
    response := g.value? .response
    dump := g.has .dump
    debaseTool := g.value? .debaseTool
    loweringTool := g.value? .loweringTool
    jobs := (g.value? .jobs).bind number?
    format := if g.value? .format = some "json" then .json else .text }

/-- The arguments of waiting. There must be a path, and there are no operands. -/
def waitArguments (g : Given) : Except Refusal WaitArguments := do
  let some target := g.value? .target | throw .usage
  if !g.operands.isEmpty then throw .usage
  return { target, timeout := ((g.value? .timeout).bind number?).getD 10 }

/-- The names of the commands. -/
def taskNames : List String := ["build", "wait"]

/-- Reads a command after its name. -/
def parseTask (before : Given) (name : String) (words : List String) :
    Except Refusal (GlobalOptions × Task) := do
  if name = "build" then
    let (g, _) ← scan buildRules (fun _ => false) none {} words
    return (globalOptions before g, .build (← buildArguments g))
  else
    let (g, _) ← scan waitRules (fun _ => false) none {} words
    return (globalOptions before g, .wait (← waitArguments g))

/-- Reads a command line. Before the name of the command there are only options. -/
def parse (words : List String) : Except Refusal (GlobalOptions × Task) := do
  match ← scan programRules (fun _ => true) none {} words with
  | (before, .at name rest) =>
    if name ∈ taskNames then parseTask before name rest else throw .usage
  | (_, .done) => throw .usage

end Command

end ModuleBuild
