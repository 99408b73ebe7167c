import ModuleBuild.Diagnostic.Basic
import ModuleBuild.Fingerprint
import ModuleBuild.Json.Reader
import ModuleBuild.Process

/-!
# What can stop a build

Each reason is a constructor, with its wording, the exit code that it gives the program, and the
diagnostic in which it is shown.

## Main definitions

* `BuildError` — the reasons
* `BuildError.message`, `BuildError.exitCode`, `BuildError.toDiagnostic`
* `ToolOutput.check` — a failed tool as such a reason

## Main results

* `BuildError.exitCode_ne_zero` — no reason looks like success

## Implementation notes

Workers for the units can always be had here, so no build is stopped by `noWorkers`. Only its
wording and its exit code are modelled, and not how making a pool of workers fails.
-/

namespace ModuleBuild

/-- What stops a build. -/
inductive BuildError where
  /-- The target module is not there. -/
  | targetMissing (path : Path)
  /-- A tool failed; without a code it was ended by a signal. -/
  | toolFailed (tool : String) (code : Option Int) (stderr : String)
  /-- A tool cannot be started. -/
  | spawn (program : Path) (fault : FileFault)
  /-- A file cannot be read, written or created. -/
  | file (path : Path) (fault : FileFault)
  /-- The first tool ended well and left no manifest. -/
  | manifestNotWritten (path : Path)
  /-- The manifest lists nothing. -/
  | manifestWithoutFiles (path : Path)
  /-- The manifest is not what it should be. -/
  | manifestInvalid (path : Path) (reason : Json.Error)
  /-- Some units could not be lowered. -/
  | loweringFailed (failed total : Nat)
  /-- Nobody is there to lower units. -/
  | noWorkers (reason : String)
  /-- A path has not appeared in time. -/
  | timedOut (path : Path)
  /-- The fingerprint cannot be kept. -/
  | cache (error : CacheError)
  deriving DecidableEq

namespace BuildError

/-- What is said about the reason. -/
def message : BuildError → String
  | targetMissing path => s!"target {path.shown} does not exist!"
  | toolFailed tool _ _ => s!"failed to run {tool}!"
  | spawn program fault => s!"failed to spawn {program.shown}: {fault.message}"
  | file path fault => s!"I/O error at {path.shown}: {fault.message}"
  | manifestNotWritten path => s!"debase did not write its manifest {path.shown}"
  | manifestWithoutFiles path =>
    s!"invalid debase json output: could not find \"files\": [...] in {path.shown}"
  | manifestInvalid path reason => s!"invalid debase json output in {path.shown}: {reason.message}"
  | loweringFailed failed total => s!"lowering failed for {failed} of {total} unit(s)"
  | noWorkers reason => s!"failed to start lowering workers: {reason}"
  | timedOut path => s!"Timed out waiting for {path.shown}"
  | cache error => error.message

/-- The exit code of the program: that of a failed tool, and 1 for every other reason. -/
def exitCode : BuildError → Int
  | toolFailed _ (some code) _ => if code = 0 then 1 else code
  | _ => 1

/-- The diagnostic for the reason. What a failed tool has written becomes a note, and where the
reason is about a file of the build, the file is named. -/
def toDiagnostic (e : BuildError) : Diagnostic :=
  let d := Diagnostic.error e.message
  match e with
  | toolFailed _ _ stderr => d.withNote (Text.trim stderr)
  | targetMissing path => d.withPath path
  | manifestNotWritten path => d.withPath path
  | manifestWithoutFiles path => d.withPath path
  | manifestInvalid path _ => d.withPath path
  | _ => d

theorem exitCode_ne_zero (e : BuildError) : e.exitCode ≠ 0 := by
  unfold exitCode
  split
  · split <;> simp_all
  · simp

end BuildError

/-- A tool that did not end with code zero stops the build. -/
def ToolOutput.check (o : ToolOutput) (i : Invocation) : Except BuildError ToolOutput :=
  if o.succeeded then .ok o else .error (.toolFailed i.toolName o.code o.stderr)

end ModuleBuild
