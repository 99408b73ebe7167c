import ModuleBuild.BuildError

/-!
# Manifests

The first tool leaves a manifest: a JSON object whose key `files` names the units that it has
written, as one text or as a list of texts. Other keys are passed over.

## Main definitions

* `Manifest` — the names of the units, in order
* `Manifest.parse`, `Manifest.load` — read a manifest from a text, or from a file
* `Manifest.units` — the paths of the units
-/

namespace ModuleBuild

/-- The names of the units that the first tool has written. -/
structure Manifest where
  /-- The names, in order and as they are written. -/
  files : List Path
  deriving DecidableEq

namespace Manifest

/-- What may stand for the names of units. -/
def expected : String := "a string or a list of strings"

/-- Reads the names of units: one, a list of them, or the absence of any. -/
def readNames : List Json.Token → Except Json.Error (Option (List String) × List Json.Token)
  | .null :: rest => .ok (none, rest)
  | .text s :: rest => .ok (some [s], rest)
  | .openBracket :: rest => do
    let (names, rest) ← Json.readItems (Json.textOf "a string") rest
    return (some names, rest)
  | ts => .error (Json.unexpected expected ts)

/-- Reads the value of one key. What has been read so far is absent before the key `files`. -/
def readField (old : Option (Option (List String))) (key : String) (ts : List Json.Token) :
    Except Json.Error (Option (Option (List String)) × List Json.Token) :=
  if key = "files" then Json.readOnce key old id readNames ts else Json.skipField old ts

/-- Reads the names of units from an object, or from a list with the value of the one key. -/
def read : List Json.Token → Except Json.Error (Option (List String) × List Json.Token)
  | .openBrace :: ts => do
    let (names, rest) ← Json.readObject readField none ts
    return (names.join, rest)
  | .openBracket :: ts => do
    let (names, rest) ← Json.readElement true (.ok none) readNames ts
    return (names, ← Json.endList rest)
  | ts => .error (Json.unexpected "struct RawManifest" ts)

/-- The manifest that a text spells. The path is only named in errors. -/
def parse (path : Path) (text : String) : Except BuildError Manifest :=
  match Json.readDocument read text with
  | .ok (some names) => .ok ⟨names.map Path.ofText⟩
  | .ok none => .error (.manifestWithoutFiles path)
  | .error reason => .error (.manifestInvalid path reason)

/-- The manifest in a file. -/
def load (files : FileTree) (cwd : Location) (path : Path) : Except BuildError Manifest :=
  match files.readText cwd path with
  | .ok text => parse path text
  | .error fault => .error (.file path fault)

/-- The paths of the units, seen from a directory. -/
def units (m : Manifest) (base : Path) : List Path := m.files.map base.join

end Manifest

end ModuleBuild
