import ModuleBuild.Build.Debasing

/-!
# The third step: publishing the objects

The objects are either listed in a response file, in one line with blanks between them, or put into
an archive by the first tool.

## Main definitions

* `Published` — what was published
* `responseText` — the content of a response file
* `Builder.archiveInvocation` — the call that makes an archive
* `Builder.publishObjects` — the step
-/

namespace ModuleBuild

/-- What was published. -/
inductive Published where
  /-- A response file. -/
  | response (path : Path)
  /-- An archive, and what the tool wrote on the way. -/
  | archive (name : Option String) (stderr : String)
  deriving DecidableEq

/-- The content of a response file: the objects as they are shown. -/
def responseText (objects : List Path) : String :=
  String.intercalate " " (objects.map Path.shown)

namespace Builder

variable {σ : Type}

/-- The call that puts objects into an archive. -/
def archiveInvocation (b : Builder σ) (r : Request) (name : Option String) (objects : List Path) :
    Invocation where
  program := b.toolchain.debase
  arguments :=
    [match name with
      | some name => Octets.ofText s!"--archive-only={name}"
      | none => "--archive-only",
      "--permissive", "-o", r.outputDir.text] ++ objects.map Path.text
  cwd := r.outputDir

/-- Publishes objects as the request asks. -/
def publishObjects (b : Builder σ) (r : Request) (objects : List Path) : Step σ Published :=
  match r.publish with
  | .response path => do
    Step.writeFile b.cwd path (Utf8.encode (responseText objects))
    return .response path
  | .archive name => do
    let output ← Step.callChecked b.runner (b.archiveInvocation r name objects)
    return .archive name output.stderr

/-- A response file is written without a tool. -/
theorem run_publishObjects_response (b : Builder σ) {r : Request} {path : Path}
    (h : r.publish = .response path) (objects : List Path) (st : BuildState σ) :
    (b.publishObjects r objects).run st =
      match st.files.write b.cwd path (Utf8.encode (responseText objects)) with
      | .ok files => (.ok (.response path), { st with files })
      | .error fault =>
        (.error (.file path fault),
          { st with
            files := st.files.afterWrite b.cwd path (Utf8.encode (responseText objects)) }) := by
  simp only [publishObjects, h]
  rw [Step.run_bind, Step.run_writeFile]
  cases st.files.write b.cwd path (Utf8.encode (responseText objects)) <;> rfl

/-- An archive is made by one tool call. -/
theorem run_publishObjects_archive (b : Builder σ) {r : Request} {name : Option String}
    (h : r.publish = .archive name) (objects : List Path) (st : BuildState σ) :
    (b.publishObjects r objects).run st =
      let i := b.archiveInvocation r name objects
      let made := b.runner.run i st.files st.tools
      ((Step.checked i made.1).map fun output => .archive name output.stderr,
        { st with files := made.2.1, tools := made.2.2 }) := by
  simp only [publishObjects, h]
  rw [Step.run_bind, Step.run_callChecked]
  rcases Step.checked (b.archiveInvocation r name objects)
    (b.runner.run (b.archiveInvocation r name objects) st.files st.tools).1 with e | output <;> rfl

end Builder

end ModuleBuild
