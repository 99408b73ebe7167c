import ModuleBuild.FileTree.Access

/-!
# What can be wrong before a tool runs

A build starts from a configuration file and the wishes of the caller. Either may be unreadable,
incomplete or contradictory, and then nothing is run.

## Main definitions

* `Needed` — the values that a build cannot do without
* `ConfigError` — what is wrong, with its wording

The reason why a configuration is malformed is a shortened one, see `Config.reason`.
-/

namespace ModuleBuild

/-- A value that a build cannot do without. -/
inductive Needed where
  /-- The first tool. -/
  | debaseTool
  /-- The lowering tool. -/
  | loweringTool
  /-- The name of the manifest, in the configuration. -/
  | manifest
  /-- The target module. -/
  | target
  /-- The name of the manifest, in a request. -/
  | outputFilename
  deriving DecidableEq

namespace Needed

/-- The name of a needed value. -/
def name : Needed → String
  | debaseTool => "tools.debase"
  | loweringTool => "tools.llc"
  | manifest => "build.manifest"
  | target => "target"
  | outputFilename => "output filename"

end Needed

/-- What is wrong before a tool runs. -/
inductive ConfigError where
  /-- The configuration file cannot be read. -/
  | unreadable (path : Path) (fault : FileFault)
  /-- The configuration file does not say what it should. -/
  | malformed (reason : String)
  /-- A needed value is empty. -/
  | missing (value : Needed)
  /-- No unit could ever be lowered. -/
  | noJobs
  /-- An archive and a response file are asked for. -/
  | archiveAndResponse
  /-- A path has no place. -/
  | noPlace (fault : FileFault)
  deriving DecidableEq

namespace ConfigError

/-- What is said about the problem. -/
def message : ConfigError → String
  | unreadable path fault => s!"cannot read {path.shown}: {fault.message}"
  | malformed reason => s!"invalid debase.toml: {reason}"
  | missing value => s!"no {value.name} given"
  | noJobs => "lower.jobs must be at least 1"
  | archiveAndResponse => "an archive and a response file cannot both be requested"
  | noPlace fault => s!"cannot resolve path: {fault.message}"

end ConfigError

end ModuleBuild
