import ModuleBuild.FileTree.Access

/-!
# Tool calls

A tool call is a program with its arguments and the directory it is run in. It ends with an exit
code, or without one if a signal ends it, and with what the tool has written.

## Main definitions

* `Invocation` — a tool call; `Invocation.line` and `Invocation.toolName` show it
* `ToolOutput` — how a tool call ended
* `Runner` — whatever carries out tool calls
* `Runner.noting` — a runner that keeps a note on each call it has carried out
* `Runner.after` — what some calls in turn leave

## Implementation notes

A runner is a parameter of every step of a build. It has a state of its own and may change any
file, so a theorem about all runners is one about all tools.
-/

namespace ModuleBuild

/-- A tool call. -/
structure Invocation where
  /-- The program. -/
  program : Path
  /-- Its arguments, with one character for each byte. -/
  arguments : List String
  /-- The directory it is run in. -/
  cwd : Path
  deriving DecidableEq

namespace Invocation

/-- The short name of the tool. -/
def toolName (i : Invocation) : String :=
  Octets.toText (i.program.fileName?.getD i.program.text)

/-- The call on one line. -/
def line (i : Invocation) : String :=
  String.intercalate " " (i.program.shown :: i.arguments.map Octets.toText)

end Invocation

/-- How a tool call ended. -/
structure ToolOutput where
  /-- The exit code, unless a signal ended the tool. -/
  code : Option Int
  /-- What the tool wrote to its standard output. -/
  stdout : String := ""
  /-- What the tool wrote to its standard error. -/
  stderr : String := ""
  deriving DecidableEq

/-- Whether the tool ended with code zero. -/
def ToolOutput.succeeded (o : ToolOutput) : Bool := o.code == some 0

/-- What carries out tool calls: it starts the tool or says why it cannot, and leaves the files and
its own state as the tool leaves them. -/
structure Runner (σ : Type) where
  /-- Carries out one call. -/
  run : Invocation → FileTree → σ → Except FileFault ToolOutput × FileTree × σ

namespace Runner

variable {σ : Type}

/-- The runner that also keeps a note on each call it has carried out and on the answer, in
order. -/
def noting {α : Type} (note : Invocation → Except FileFault ToolOutput → α) (runner : Runner σ) :
    Runner (List α × σ) where
  run i files state :=
    match runner.run i files state.2 with
    | (answer, files, tools) => (answer, files, (state.1 ++ [note i answer], tools))

/-- Keeping notes changes nothing else. -/
theorem run_noting {α : Type} (note : Invocation → Except FileFault ToolOutput → α)
    (runner : Runner σ) (i : Invocation) (files : FileTree) (notes : List α) (tools : σ) :
    (runner.noting note).run i files (notes, tools) =
      ((runner.run i files tools).1, (runner.run i files tools).2.1,
        (notes ++ [note i (runner.run i files tools).1], (runner.run i files tools).2.2)) := rfl

/-- The files and the state of the tools after some calls in turn. -/
def after (runner : Runner σ) : List Invocation → FileTree × σ → FileTree × σ
  | [], now => now
  | i :: rest, now => runner.after rest (runner.run i now.1 now.2).2

end Runner

end ModuleBuild
