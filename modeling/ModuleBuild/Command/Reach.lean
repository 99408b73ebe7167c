import ModuleBuild.Command.Build

/-!
# What a command looks at

A command that is run on a part of the files only must be given every path that it looks at before
it calls a tool. These are the configuration and, once that is known, the target, the tools, the
manifest and the fingerprint.

## Main definitions

* `Command.configPath` — the configuration file that a build looks for
* `Command.buildPaths` — what a build looks at with a given configuration
-/

namespace ModuleBuild

namespace Command

/-- The configuration file that a build looks for. -/
def configPath (a : BuildArguments) (g : GlobalOptions) : Path :=
  match g.config with
  | some path => .ofText path
  | none => (Path.ofText (a.outputDir.getD "")).join (.ofText Config.fileName)

/-- Where a tool may lie. -/
def toolPaths (s : SearchPath) (name : Path) : List Path :=
  name :: s.directories.map (Path.join · name)

/-- What a build looks at with a given configuration. -/
def buildPaths (s : SearchPath) (cwd : Path) (a : BuildArguments) (c : Config) : List Path :=
  toolPaths s (.ofText (a.debaseTool.getD c.debase)) ++
    toolPaths s (.ofText (a.loweringTool.getD c.llc)) ++
    match Request.ofOptions cwd (requestOptions a c) with
    | .error _ => []
    | .ok r =>
      [r.outputDir, r.targetPath, r.libDir, r.manifestPath, r.optDir,
        (Builder.sidecar r).path] ++
        match r.publish with
        | .response path => [path]
        | .archive _ => []

end Command

end ModuleBuild
