import ModuleBuild.Build.Debasing

/-!
# What the program prints

A command prints lines to the output and to the error output. While it builds, what has been printed
goes along with the state of the tools, which do not see it; a runner can be made to print every
tool call before it carries it out.

## Main definitions

* `Command.Console` — what has been printed
* `Command.Printing` — the state of the tools with what has been printed
* `Command.echoing` — a runner that prints its calls
* `Command.changeConsole` — a step that prints

## Implementation notes

Printing never fails here. What is not modelled is an output that nobody reads any more, or that has
no space left: the program is aborted at the first line that it cannot print there.
-/

namespace ModuleBuild

namespace Command

variable {σ : Type}

/-- What has been printed. -/
structure Console where
  /-- The output. -/
  out : String := ""
  /-- The error output. -/
  err : String := ""
  deriving DecidableEq

namespace Console

/-- One more line of output. -/
def printLine (c : Console) (line : String) : Console := { c with out := c.out ++ line ++ "\n" }

/-- More error output. -/
def report (c : Console) (text : String) : Console := { c with err := c.err ++ text }

/-- One more line of error output. -/
def reportLine (c : Console) (line : String) : Console := c.report (line ++ "\n")

end Console

/-- The state of the tools with what has been printed. -/
structure Printing (σ : Type) where
  /-- What has been printed. -/
  console : Console
  /-- The state of the tools. -/
  tools : σ

/-- The line for a tool call. -/
def callLine (i : Invocation) : String := s!"     Running `{i.line}`"

/-- What is printed before a tool call, on demand. -/
def announce (verbose : Bool) (i : Invocation) (console : Console) : Console :=
  if verbose then console.reportLine (callLine i) else console

/-- The runner that prints its calls on demand. -/
def echoing (verbose : Bool) (runner : Runner σ) : Runner (Printing σ) where
  run i files state :=
    match runner.run i files state.tools with
    | (answer, files, tools) => (answer, files, ⟨announce verbose i state.console, tools⟩)

/-- What a build is carried out with, so that tool calls are printed on demand. -/
def echoingBuilder (verbose : Bool) (b : Builder σ) : Builder (Printing σ) :=
  b.withRunner (echoing verbose b.runner)

/-- A step that changes what has been printed. -/
def changeConsole (f : Console → Console) : Step (Printing σ) Unit :=
  Step.modifyTools fun state => { state with console := f state.console }

end Command

end ModuleBuild
