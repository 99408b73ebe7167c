import ModuleBuild.BuildError
import ModuleBuild.Diagnostic.Sink

/-!
# Steps of a build

A step reads and changes the files, calls tools, emits diagnostics, and ends with a value or with
the reason that stops the build. Steps are put together one after the other; what a step has done
to the files stays done when a later one fails.

## Main definitions

* `BuildState` — the files, the state of the tools, and the diagnostics so far
* `Step` — a step, with its monad
* `Step.files`, `Step.setFiles`, `Step.call`, `Step.emit`, `Step.fail` — the smallest steps

## Main results

* `Step.run_bind` — a step after another starts where that one ended well
-/

namespace ModuleBuild

/-- Where a build stands. -/
structure BuildState (σ : Type) where
  /-- The files. -/
  files : FileTree
  /-- The state of what carries out the tool calls. -/
  tools : σ
  /-- The diagnostics that have been emitted. -/
  sink : Sink := Sink.empty

/-- A step of a build. -/
def Step (σ α : Type) : Type := BuildState σ → Except BuildError α × BuildState σ

namespace Step

variable {σ α β : Type}

/-- Carries out a step. -/
def run (s : Step σ α) (st : BuildState σ) : Except BuildError α × BuildState σ := s st

/-- One step after another. -/
def andThen (s : Step σ α) (f : α → Step σ β) : Step σ β := fun st =>
  match s st with
  | (.ok a, st) => f a st
  | (.error e, st) => (.error e, st)

instance : Monad (Step σ) where
  pure a := fun st => (.ok a, st)
  bind := andThen

/-- Stops the build. -/
def fail (e : BuildError) : Step σ α := fun st => (.error e, st)

/-- A result that may stop the build. -/
def ofExcept (r : Except BuildError α) : Step σ α := fun st => (r, st)

/-- The present files. -/
def files : Step σ FileTree := fun st => (.ok st.files, st)

/-- Puts other files in their place. -/
def setFiles (files : FileTree) : Step σ Unit := fun st => (.ok (), { st with files })

/-- Changes the state of what carries out the tool calls. -/
def modifyTools (f : σ → σ) : Step σ Unit := fun st => (.ok (), { st with tools := f st.tools })

/-- Emits a diagnostic. -/
def emit (d : Diagnostic) : Step σ Unit := fun st => (.ok (), { st with sink := st.sink.emit d })

/-- Emits diagnostics in order. -/
def emitAll : List Diagnostic → Step σ Unit
  | [] => pure ()
  | d :: ds => do
    emit d
    emitAll ds

/-- Calls a tool, and says how it ended or why it could not start. -/
def call (runner : Runner σ) (i : Invocation) : Step σ (Except FileFault ToolOutput) := fun st =>
  match runner.run i st.files st.tools with
  | (result, files, tools) => (.ok result, { st with files, tools })

/-- Calls a tool that must end well. -/
def callChecked (runner : Runner σ) (i : Invocation) : Step σ ToolOutput := do
  match ← call runner i with
  | .ok output => ofExcept (output.check i)
  | .error fault => fail (.spawn i.program fault)

/-- Creates a directory and those that it lies in. -/
def createDirectories (cwd : Location) (p : Path) : Step σ Unit := fun st =>
  match st.files.createDirectories cwd p with
  | (.ok (), files) => (.ok (), { st with files })
  | (.error fault, files) => (.error (.file p fault), { st with files })

/-- Writes a file. An attempt that fails may leave the beginning of the content. -/
def writeFile (cwd : Location) (p : Path) (content : Bytes) : Step σ Unit := fun st =>
  match st.files.write cwd p content with
  | .ok files => (.ok (), { st with files })
  | .error fault =>
    (.error (.file p fault), { st with files := st.files.afterWrite cwd p content })

/-! ### Running steps -/

@[simp] theorem run_pure (a : α) (st : BuildState σ) : (pure a : Step σ α).run st = (.ok a, st) :=
  rfl

theorem run_bind (s : Step σ α) (f : α → Step σ β) (st : BuildState σ) :
    (s >>= f).run st =
      match s.run st with
      | (.ok a, st) => (f a).run st
      | (.error e, st) => (.error e, st) := rfl

@[simp] theorem run_fail (e : BuildError) (st : BuildState σ) :
    (fail e : Step σ α).run st = (.error e, st) := rfl

@[simp] theorem run_files (st : BuildState σ) :
    (files : Step σ FileTree).run st = (.ok st.files, st) := rfl

@[simp] theorem run_emit (d : Diagnostic) (st : BuildState σ) :
    (emit d).run st = (.ok (), { st with sink := st.sink.emit d }) := rfl

@[simp] theorem run_ofExcept (result : Except BuildError α) (st : BuildState σ) :
    (ofExcept result : Step σ α).run st = (result, st) := rfl

@[simp] theorem run_setFiles (files : FileTree) (st : BuildState σ) :
    (setFiles files).run st = (.ok (), { st with files }) := rfl

/-- A tool call changes the files and the tools as the tool does. -/
theorem run_call (runner : Runner σ) (i : Invocation) (st : BuildState σ) :
    (call runner i).run st =
      (.ok (runner.run i st.files st.tools).1,
        { st with
          files := (runner.run i st.files st.tools).2.1
          tools := (runner.run i st.files st.tools).2.2 }) := rfl

/-- What comes of the answer to a tool call that must end well. -/
def checked (i : Invocation) : Except FileFault ToolOutput → Except BuildError ToolOutput
  | .ok output => output.check i
  | .error fault => .error (.spawn i.program fault)

/-- A tool call that must end well is a tool call, and its answer is judged afterwards. -/
theorem run_callChecked (runner : Runner σ) (i : Invocation) (st : BuildState σ) :
    (callChecked runner i).run st =
      (checked i (runner.run i st.files st.tools).1,
        { st with
          files := (runner.run i st.files st.tools).2.1
          tools := (runner.run i st.files st.tools).2.2 }) := by
  rw [callChecked, run_bind, run_call]
  dsimp only
  cases (runner.run i st.files st.tools).1 <;> rfl

/-- Creating directories changes nothing but the files. -/
theorem run_createDirectories (cwd : Location) (p : Path) (st : BuildState σ) :
    (createDirectories cwd p).run st =
      ((st.files.createDirectories cwd p).1.mapError (.file p),
        { st with files := (st.files.createDirectories cwd p).2 }) := by
  simp only [createDirectories, run]
  rcases st.files.createDirectories cwd p with ⟨_ | _, _⟩ <;> rfl

theorem run_writeFile (cwd : Location) (p : Path) (content : Bytes) (st : BuildState σ) :
    (writeFile cwd p content).run st =
      match st.files.write cwd p content with
      | .ok files => (.ok (), { st with files })
      | .error fault =>
        (.error (.file p fault), { st with files := st.files.afterWrite cwd p content }) := rfl

theorem run_emitAll (ds : List Diagnostic) (st : BuildState σ) :
    (emitAll ds).run st = (.ok (), { st with sink := ds.foldl Sink.emit st.sink }) := by
  induction ds generalizing st with
  | nil => rfl
  | cons d ds ih => exact ih { st with sink := st.sink.emit d }

end Step

end ModuleBuild
