import ModuleBuild.Build.Wait
import ModuleBuild.Command.Build
import ModuleBuild.Process.Machine

/-!
# Running the program

The program reads its command line, carries out the command on the files, and ends with an exit
code.

## Main definitions

* `Command.runBuild`, `Command.runWait` — the two commands
* `Command.run` — the whole program
-/

namespace ModuleBuild

namespace Command

/-- The name of the program and its version. -/
def versionText : String := "debase-build 0.1.0"

/-- What is said about a command line that is not a proper one. -/
def usageText : String := "usage"

/-- Where a path begins at the root of the files. -/
def pathOf (l : Location) : Path := ⟨"/" ++ String.intercalate "/" l⟩

/-- The end of a command that does not come to a build. -/
def refused (files : FileTree) (e : ConfigError) : Outcome :=
  ⟨1, Console.reportLine {} s!"error: {e.message}", files⟩

/-- Builds a target. -/
def runBuild (m : Machine) (files : FileTree) (cwd : Location) (a : BuildArguments)
    (g : GlobalOptions) : Outcome :=
  match findConfig files cwd a g with
  | .error e => refused files e
  | .ok c =>
    match Request.ofOptions (pathOf cwd) (requestOptions a c) with
    | .error e => refused files e
    | .ok r =>
      let b : Builder Unit :=
        { runner := m.runner cwd
          toolchain := toolchain m.searchPath files cwd a c
          lowering := loweringOptions a c
          cwd }
      (execute b r a g files ()).1

/-- The line about a path that is waited for. -/
def waitingLine (p : Path) : String := s!"    Waiting for {p.shown}"

/-- The pause between two looks for a path. -/
def waitPause : Duration := .ofSeconds 1

/-- Waits for a path, and looks for it once a second. -/
def runWait (files : FileTree) (cwd : Location) (a : WaitArguments) (g : GlobalOptions) : Outcome :=
  let path := Path.ofText a.target
  let console : Console :=
    if g.quiet || files.contains cwd path then {}
    else Console.reportLine {} (waitingLine path)
  match awaitPath files cwd path (.ofSeconds a.timeout.toUInt64) waitPause with
  | .ok () => ⟨0, console, files⟩
  | .error e => ⟨e.exitCode, console.reportLine e.message, files⟩

/-- Runs the program with the words of a command line. -/
def run (m : Machine) (files : FileTree) (cwd : Location) (words : List String) : Outcome :=
  match parse words with
  | .error .version => ⟨0, Console.printLine {} versionText, files⟩
  | .error .usage => ⟨2, Console.report {} usageText, files⟩
  | .ok (g, .build a) => runBuild m files cwd a g
  | .ok (g, .wait a) => runWait files cwd a g

end Command

end ModuleBuild
