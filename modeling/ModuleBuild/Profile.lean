/-!
# Build profiles and the flags they stand for

A build profile chooses how hard the lowering tool optimises and which frame pointers it keeps.
The two plain profiles fix the frame-pointer policy; the size and the speed profile leave it to
the request.

## Main definitions

* `Profile`, `FramePointer` — the choices, with `name` and `ofName`
* `Profile.flags` — what a profile stands for
* `LoweringFlags.arguments` — the flags as tool arguments

## Main results

* `Profile.ofName?_name`, `FramePointer.ofName?_name` — a choice is read back from its name
-/

namespace ModuleBuild

/-- A name that was to be one of a fixed list and is none of them. -/
structure UnknownName where
  /-- What the name was to be. -/
  kind : String
  /-- The name. -/
  input : String
  deriving DecidableEq

namespace UnknownName

/-- What is said about an unknown name. -/
def message (e : UnknownName) : String := s!"unknown {e.kind} '{e.input}'"

end UnknownName

/-- Which frame pointers the lowering tool keeps. -/
inductive FramePointer where
  /-- Those of every function. -/
  | all
  /-- Those of functions that call others. -/
  | nonLeaf
  /-- None. -/
  | none
  deriving DecidableEq, Inhabited

namespace FramePointer

/-- The policies, in order. -/
def every : List FramePointer := [all, nonLeaf, none]

/-- The name of a policy. -/
def name : FramePointer → String
  | all => "all"
  | nonLeaf => "non-leaf"
  | none => "none"

/-- The policy with a name. -/
def ofName? (s : String) : Option FramePointer := every.find? (·.name == s)

/-- Reads a policy, and says which name is unknown. -/
def ofName (s : String) : Except UnknownName FramePointer :=
  match ofName? s with
  | some p => .ok p
  | Option.none => .error ⟨"frame-pointer policy", s⟩

theorem ofName?_name (p : FramePointer) : ofName? p.name = some p := by
  cases p <;> decide

theorem name_inj {p q : FramePointer} (h : p.name = q.name) : p = q := by
  have hread := congrArg ofName? h
  rw [ofName?_name, ofName?_name] at hread
  exact Option.some.inj hread

end FramePointer

/-- What a build is optimised for. -/
inductive Profile where
  /-- Nothing: no optimisation, no frame pointers. -/
  | debug
  /-- Speed, with the frame pointers that stack traces need. -/
  | relWithDebInfo
  /-- Size. -/
  | minSizeRel
  /-- Speed. -/
  | release
  deriving DecidableEq, Inhabited

/-- The flags for the lowering tool. -/
structure LoweringFlags where
  /-- The level of optimisation. -/
  level : Nat
  /-- The frame pointers that are kept. -/
  framePointer : FramePointer
  deriving DecidableEq

namespace LoweringFlags

/-- The flags as the lowering tool takes them. -/
def arguments (f : LoweringFlags) : List String :=
  [s!"-O={f.level}", s!"--frame-pointer={f.framePointer.name}"]

end LoweringFlags

namespace Profile

/-- The profiles, in order. -/
def every : List Profile := [debug, relWithDebInfo, minSizeRel, release]

/-- The name of a profile. -/
def name : Profile → String
  | debug => "Debug"
  | relWithDebInfo => "RelWithDebInfo"
  | minSizeRel => "MinSizeRel"
  | release => "Release"

/-- The profile with a name. -/
def ofName? (s : String) : Option Profile := every.find? (·.name == s)

/-- Reads a profile, and says which name is unknown. -/
def ofName (s : String) : Except UnknownName Profile :=
  match ofName? s with
  | some p => .ok p
  | none => .error ⟨"build profile", s⟩

/-- What a profile stands for. The requested policy counts for the size and the speed profile
only. -/
def flags (p : Profile) (requested : FramePointer) : LoweringFlags :=
  match p with
  | debug => ⟨0, .none⟩
  | relWithDebInfo => ⟨2, .nonLeaf⟩
  | minSizeRel => ⟨2, requested⟩
  | release => ⟨3, requested⟩

theorem ofName?_name (p : Profile) : ofName? p.name = some p := by
  cases p <;> decide

end Profile

end ModuleBuild
