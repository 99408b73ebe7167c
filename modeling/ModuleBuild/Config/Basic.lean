import ModuleBuild.Config.Error
import ModuleBuild.Profile
import ModuleBuild.Toml.Section

/-!
# Configurations

A configuration file names the tools and sets defaults for every build. It has the sections `tools`,
`build` and `lower`; each section and each of its keys may be missing. A missing section stands for
the values that a `Config` has by itself, a missing key of a section for the default of the key.

## Main definitions

* `Config` — the settings, with what holds where the file says nothing
* `Config.check` — refuses settings that no build can use
* `Config.parse`, `Config.load` — the settings in a text, or in a file

## Main results

* `Config.usable_of_check` — settings that pass the check can be used

## Implementation notes

The reason why a text cannot be read is shortened: of the lines that show the place in the file, and
of those that say how the text breaks the rules of its format, one word is left. Only what is said
about a value that does not fit is kept as it is.
-/

namespace ModuleBuild

namespace Config

/-! ### Defaults -/

/-- The first tool, unless there is another one. -/
def defaultDebase : String := "debase"

/-- The lowering tool, unless there is another one. -/
def defaultLlc : String := "llc"

/-- The build profile, unless there is another one. -/
def defaultProfile : Profile := .debug

/-- The frame-pointer policy, unless there is another one. -/
def defaultFramePointer : FramePointer := .all

/-- The name of the manifest, unless there is another one. -/
def defaultManifest : String := "debase.json"

/-- The register allocator, unless there is another one. -/
def defaultRegalloc : String := "pbqp"

/-- How many units are lowered at the same time, unless it is another number. -/
def defaultJobs : Nat := 1

end Config

/-- The settings of a configuration file. -/
structure Config where
  /-- The first tool. -/
  debase : String := Config.defaultDebase
  /-- The lowering tool. -/
  llc : String := Config.defaultLlc
  /-- The build profile. -/
  profile : Profile := Config.defaultProfile
  /-- The frame-pointer policy. -/
  framePointer : FramePointer := Config.defaultFramePointer
  /-- The name of the manifest. -/
  manifest : String := Config.defaultManifest
  /-- The register allocator; an empty name leaves the choice to the lowering tool. -/
  regalloc : String := Config.defaultRegalloc
  /-- How many units are lowered at the same time. -/
  jobs : Nat := Config.defaultJobs
  deriving DecidableEq

namespace Config

/-- The name that configuration files have. -/
def fileName : String := "debase.toml"

/-! ### Sections -/

/-- A field that is a text. -/
def textField (name : String) (set : Config → String → Config) : Toml.Field Config :=
  ⟨name, fun c node => do return set c (← Toml.readText node)⟩

/-- The fields of the section on tools. -/
def toolFields : List (Toml.Field Config) :=
  [textField "debase" fun c s => { c with debase := s },
    textField "llc" fun c s => { c with llc := s }]

/-- The settings with the defaults of all keys of the section on tools. -/
def withToolDefaults (c : Config) : Config := { c with debase := defaultDebase, llc := defaultLlc }

/-- Reads a build profile. -/
def readProfile (node : Toml.Node) : Except Toml.Misfit Profile := do
  let name ← Toml.readChoice (Profile.every.map Profile.name) node
  return (Profile.ofName? name).getD .debug

/-- Reads a frame-pointer policy. -/
def readFramePointer (node : Toml.Node) : Except Toml.Misfit FramePointer := do
  let name ← Toml.readChoice (FramePointer.every.map FramePointer.name) node
  return (FramePointer.ofName? name).getD .all

/-- The fields of the section on builds. -/
def buildFields : List (Toml.Field Config) :=
  [⟨"profile", fun c node => do return { c with profile := ← readProfile node }⟩,
    ⟨"frame_pointer", fun c node => do return { c with framePointer := ← readFramePointer node }⟩,
    textField "manifest" fun c s => { c with manifest := s }]

/-- The settings with the defaults of all keys of the section on builds. -/
def withBuildDefaults (c : Config) : Config :=
  { c with
    profile := defaultProfile, framePointer := defaultFramePointer, manifest := defaultManifest }

/-- The fields of the section on lowering. -/
def lowerFields : List (Toml.Field Config) :=
  [textField "regalloc" fun c s => { c with regalloc := s },
    ⟨"jobs", fun c node => do return { c with jobs := ← Toml.readCount node }⟩]

/-- The settings with the defaults of all keys of the section on lowering. -/
def withLowerDefaults (c : Config) : Config :=
  { c with regalloc := defaultRegalloc, jobs := defaultJobs }

/-- The sections. What a section does not say, the defaults of its keys say. -/
def sections : List (Toml.Field Config) :=
  [⟨"tools", fun c => Toml.readSection "ToolsConfig" toolFields c.withToolDefaults⟩,
    ⟨"build", fun c => Toml.readSection "BuildConfig" buildFields c.withBuildDefaults⟩,
    ⟨"lower", fun c => Toml.readSection "LowerConfig" lowerFields c.withLowerDefaults⟩]

/-! ### Whole files -/

/-- What is said about a file that does not say what it should: the last line of the message, if
that line says what is wrong. -/
def reason : Toml.Misfit → String
  | .form => "syntax"
  | .mismatch m =>
    let line := String.ofList ((m.message.toList.splitOn '\n').getLast?.getD [])
    let openings := ["invalid type:", "invalid value:", "invalid length ", "unknown variant "]
    if openings.any (·.isPrefixOf line) then line else "syntax"

/-- The settings that a text spells, whether or not a build can use them. -/
def read (text : String) : Except Toml.Misfit Config :=
  match Toml.parse text with
  | some entries => Toml.readEntries sections {} entries
  | none => .error .form

/-- Refuses settings that no build can use. -/
def check (c : Config) : Except ConfigError Config :=
  if c.debase.isEmpty then .error (.missing .debaseTool)
  else if c.llc.isEmpty then .error (.missing .loweringTool)
  else if c.manifest.isEmpty then .error (.missing .manifest)
  else if c.jobs = 0 then .error .noJobs
  else .ok c

/-- The settings that a text spells. -/
def parse (text : String) : Except ConfigError Config :=
  match read text with
  | .ok c => check c
  | .error m => .error (.malformed (reason m))

/-- The settings in a file. -/
def load (files : FileTree) (cwd : Location) (path : Path) : Except ConfigError Config :=
  match files.readText cwd path with
  | .ok text => parse text
  | .error fault => .error (.unreadable path fault)

/-! ### Usable settings -/

/-- A build can use the settings. -/
structure Usable (c : Config) : Prop where
  /-- The first tool has a name. -/
  debase : c.debase ≠ ""
  /-- The lowering tool has a name. -/
  llc : c.llc ≠ ""
  /-- The manifest has a name. -/
  manifest : c.manifest ≠ ""
  /-- Units can be lowered. -/
  jobs : 0 < c.jobs

theorem usable_of_check {c d : Config} (h : c.check = .ok d) : d = c ∧ c.Usable := by
  unfold check at h
  split at h
  · simp at h
  split at h
  · simp at h
  split at h
  · simp at h
  split at h
  · simp at h
  · injection h with h
    exact ⟨h.symm, by simp_all, by simp_all, by simp_all, by omega⟩

end Config

end ModuleBuild
