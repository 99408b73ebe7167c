import ModuleBuild.Build.Step
import ModuleBuild.Request

/-!
# The first step: debasing the target

The first tool takes the target apart into units and writes a manifest of them. The tool is skipped
if there is a manifest and a fingerprint, and the fingerprint is that of the present files.
Otherwise the tool is called once, and the fingerprint is taken anew.

## Main definitions

* `Toolchain`, `LoweringOptions`, `Builder` — what a build is carried out with
* `Builder.debaseInvocation` — the call of the first tool
* `Builder.debase` — the step
-/

namespace ModuleBuild

/-- The two tools. -/
structure Toolchain where
  /-- The first tool, which also makes archives. -/
  debase : Path
  /-- The lowering tool. -/
  llc : Path
  deriving DecidableEq

/-- How units are lowered. -/
structure LoweringOptions where
  /-- The register allocator, if one is asked for. -/
  regalloc : Option String := none
  /-- How many units are lowered at the same time. -/
  jobs : Nat := 1
  /-- The order in which the workers take their steps if there are several; what it leaves undone is
  done unit by unit. -/
  schedule : List Nat := []
  deriving DecidableEq

/-- What a build is carried out with. -/
structure Builder (σ : Type) where
  /-- What carries out the tool calls. -/
  runner : Runner σ
  /-- The tools. -/
  toolchain : Toolchain
  /-- How units are lowered. -/
  lowering : LoweringOptions
  /-- The working directory. -/
  cwd : Location

/-- What the first step has come to. -/
structure DebaseOutcome where
  /-- The manifest. -/
  manifestPath : Path
  /-- The call of the first tool, unless it was skipped. -/
  invocation : Option Invocation
  deriving DecidableEq

/-- Whether the first tool was skipped. -/
def DebaseOutcome.cached (o : DebaseOutcome) : Bool := o.invocation.isNone

/-- Flags that the first tool is always given. -/
def policyFlags : List String := ["--emit-all", "--allow-no-builtins", "--permissive"]

namespace Builder

variable {σ τ : Type}

/-- The same tools, called by another runner. -/
def withRunner (b : Builder σ) (runner : Runner τ) : Builder τ where
  runner := runner
  toolchain := b.toolchain
  lowering := b.lowering
  cwd := b.cwd

/-- The call of the first tool. -/
def debaseInvocation (b : Builder σ) (r : Request) : Invocation where
  program := b.toolchain.debase
  arguments :=
    [r.targetPath.text, "-o", r.libDir.text,
      Octets.ofText s!"--output-filenames={r.manifestName}"] ++
      policyFlags ++ r.passthrough.map Octets.ofText ++ r.files.map Path.text
  cwd := r.outputDir

/-- The file that keeps the fingerprint of a request. -/
def sidecar (r : Request) : Sidecar := Sidecar.forTarget r.outputDir r.target

/-- What the fingerprint of a request is taken of. -/
def fingerprintInputs (b : Builder σ) (r : Request) : FingerprintInputs where
  tool := b.toolchain.debase
  target := r.targetPath
  manifest := r.manifestPath
  config := r.configStrings

/-- Whether the work of the first tool is up to date. -/
def isUpToDate (b : Builder σ) (r : Request) (files : FileTree) : Bool :=
  files.isFile b.cwd r.manifestPath && (sidecar r).isPresent files b.cwd &&
    (sidecar r).isFresh files b.cwd (b.fingerprintInputs r)

/-- Takes the fingerprint anew. -/
def refreshFingerprint (b : Builder σ) (r : Request) : Step σ Unit := do
  let files ← Step.files
  match (sidecar r).refresh files b.cwd (b.fingerprintInputs r) with
  | .ok (_, files) => Step.setFiles files
  | .error e => do
    Step.setFiles ((sidecar r).afterRefresh files b.cwd (b.fingerprintInputs r))
    Step.fail (.cache e)

/-- Calls the first tool and takes the fingerprint of its work. -/
def runDebase (b : Builder σ) (r : Request) : Step σ DebaseOutcome := do
  Step.createDirectories b.cwd r.libDir
  let invocation := b.debaseInvocation r
  let _ ← Step.callChecked b.runner invocation
  if (← Step.files).isFile b.cwd r.manifestPath then
    b.refreshFingerprint r
    return ⟨r.manifestPath, some invocation⟩
  else Step.fail (.manifestNotWritten r.manifestPath)

/-- The first step. -/
def debase (b : Builder σ) (r : Request) : Step σ DebaseOutcome := do
  let files ← Step.files
  if !files.contains b.cwd r.targetPath then Step.fail (.targetMissing r.targetPath)
  else if b.isUpToDate r files then return ⟨r.manifestPath, none⟩
  else b.runDebase r

end Builder

end ModuleBuild
