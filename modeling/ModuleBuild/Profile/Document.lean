import ModuleBuild.Json.Reader
import ModuleBuild.Profile

/-!
# Profiles as JSON

In a document a profile and a frame-pointer policy are their names.

## Main definitions

* `Profile.ofDocument`, `FramePointer.ofDocument` — read a document that is one of the names
-/

namespace ModuleBuild

/-- Reads a document that is a profile. -/
def Profile.ofDocument (s : String) : Except Json.Error Profile := do
  let name ← Json.readDocument (Json.readChoice (Profile.every.map Profile.name)) s
  return (Profile.ofName? name).getD .debug

/-- Reads a document that is a frame-pointer policy. -/
def FramePointer.ofDocument (s : String) : Except Json.Error FramePointer := do
  let name ← Json.readDocument (Json.readChoice (FramePointer.every.map FramePointer.name)) s
  return (FramePointer.ofName? name).getD .all

end ModuleBuild
