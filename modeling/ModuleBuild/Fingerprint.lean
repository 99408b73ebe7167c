import ModuleBuild.Digest.Basic
import ModuleBuild.FileTree.Access
import ModuleBuild.Text.Blank

/-!
# Fingerprints of the first step

The first tool is slow, so its work is not repeated while nothing has changed that it hangs on. The
fingerprint of a run is the hash over the tool, the target, the manifest and the configuration
texts. It is kept in a small file beside the target, and a run is up to date if the hash over the
present files is the one in that file.

## Main definitions

* `FingerprintInputs`, `FingerprintInputs.compute` — what is hashed, and its hash
* `CacheError` — why a fingerprint cannot be computed or read
* `Sidecar` — the file that keeps a fingerprint, with `load`, `save`, `isFresh` and `refresh`
* `Sidecar.afterRefresh` — the files after an attempt to put a fingerprint into the file

## Main results

* `Sidecar.load_of_read` — what is read from a file with a given text
-/

namespace ModuleBuild

/-- Why a fingerprint cannot be computed, kept or read. -/
inductive CacheError where
  /-- A file cannot be read or written. -/
  | file (path : Path) (fault : FileFault)
  /-- The file of a fingerprint holds something else. -/
  | malformed (path : Path)
  deriving DecidableEq

namespace CacheError

/-- What is said about the problem. -/
def message : CacheError → String
  | file path fault => s!"fingerprint I/O failed for {path.shown}: {fault.message}"
  | malformed path => s!"malformed fingerprint in {path.shown}"

end CacheError

/-- What a fingerprint is taken of. -/
structure FingerprintInputs where
  /-- The first tool. -/
  tool : Path
  /-- The target module. -/
  target : Path
  /-- The manifest. -/
  manifest : Path
  /-- The configuration texts. -/
  config : List String
  deriving DecidableEq

namespace FingerprintInputs

/-- The purpose that keeps fingerprints apart from other hashes. -/
def domain : String := "debase-build/fingerprint/v1"

/-- Reads a file that is hashed. -/
def readInput (files : FileTree) (cwd : Location) (p : Path) : Except CacheError Bytes :=
  match files.read cwd p with
  | .ok content => .ok content
  | .error fault => .error (.file p fault)

/-- The sections that are hashed: three files and the configuration texts. -/
def sections (i : FingerprintInputs) (files : FileTree) (cwd : Location) :
    Except CacheError (List Bytes) := do
  let tool ← readInput files cwd i.tool
  let target ← readInput files cwd i.target
  let manifest ← readInput files cwd i.manifest
  return tool :: target :: manifest :: i.config.map Utf8.encode

/-- The fingerprint over the present files. -/
def compute (i : FingerprintInputs) (files : FileTree) (cwd : Location) :
    Except CacheError ContentHash := do
  return ContentHash.ofSections domain (← i.sections files cwd)

end FingerprintInputs

/-- The file that keeps the fingerprint of a target. -/
structure Sidecar where
  /-- Where the file lies. -/
  path : Path
  deriving DecidableEq

namespace Sidecar

/-- The file for a target: in the output directory, named after the target as that is shown. -/
def forTarget (outputDir target : Path) : Sidecar :=
  ⟨outputDir.join (.ofText (Octets.toText (target.fileName?.getD target.text) ++ ".xxh3"))⟩

/-- Whether there is a file. -/
def isPresent (s : Sidecar) (files : FileTree) (cwd : Location) : Bool := files.isFile cwd s.path

/-- The fingerprint in the file. Blanks around it do no harm. -/
def load (s : Sidecar) (files : FileTree) (cwd : Location) : Except CacheError ContentHash :=
  match files.readText cwd s.path with
  | .error fault => .error (.file s.path fault)
  | .ok text =>
    match ContentHash.ofHex? (Text.trim text) with
    | some hash => .ok hash
    | none => .error (.malformed s.path)

/-- The content of the file for a fingerprint. -/
def content (hash : ContentHash) : Bytes := Utf8.encode (hash.toHex ++ "\n")

/-- Puts a fingerprint into the file. -/
def save (s : Sidecar) (files : FileTree) (cwd : Location) (hash : ContentHash) :
    Except CacheError FileTree :=
  match files.write cwd s.path (content hash) with
  | .ok files => .ok files
  | .error fault => .error (.file s.path fault)

/-- Whether the file has the fingerprint over the present files. A file that cannot be read is out
of date. -/
def isFresh (s : Sidecar) (files : FileTree) (cwd : Location) (inputs : FingerprintInputs) : Bool :=
  match s.load files cwd, inputs.compute files cwd with
  | .ok stored, .ok present => stored == present
  | _, _ => false

/-- Puts the fingerprint over the present files into the file. -/
def refresh (s : Sidecar) (files : FileTree) (cwd : Location) (inputs : FingerprintInputs) :
    Except CacheError (ContentHash × FileTree) := do
  let hash ← inputs.compute files cwd
  return (hash, ← s.save files cwd hash)

/-- The files after an attempt to put the fingerprint over the present files into the file. -/
def afterRefresh (s : Sidecar) (files : FileTree) (cwd : Location) (inputs : FingerprintInputs) :
    FileTree :=
  match inputs.compute files cwd with
  | .ok hash => files.afterWrite cwd s.path (content hash)
  | .error _ => files

theorem load_of_read {s : Sidecar} {files : FileTree} {cwd : Location} {text : String}
    (h : files.readText cwd s.path = .ok text) :
    s.load files cwd =
      match ContentHash.ofHex? (Text.trim text) with
      | some hash => .ok hash
      | none => .error (.malformed s.path) := by
  simp [load, h]

end Sidecar

end ModuleBuild
