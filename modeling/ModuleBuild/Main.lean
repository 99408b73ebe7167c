import ModuleBuild.Command.Reach
import ModuleBuild.Command.Run

/-!
# The program

The outermost layer. It takes what a build looks at into a file tree, runs the command line on that
tree, writes back what has changed, and prints. Waiting looks at the path itself once a second.

## Main definitions

* `main` — the program

## Implementation notes

A tool is a script for the shell; a file counts as one if its first line says so.
-/

namespace ModuleBuild

namespace Session

/-- The location of an absolute path. -/
def locationOf (p : Path) : Location := (p.text.splitOn "/").filter (· ≠ "")

/-- The tree with a directory at a location and at all above it. -/
def withDirectory (files : FileTree) (l : Location) : FileTree :=
  (List.range l.length).foldl (fun files n =>
    let l := l.take (n + 1)
    if files.isDirectoryAt l then files else files.put l (.directory [])) files

/-- The tree with something at a location and directories above it. -/
def withNode (files : FileTree) (l : Location) (node : Node) : FileTree :=
  (withDirectory files l.dropLast).put l node

/-- Whether there is something at a path. -/
def exists? (p : Path) : IO Bool := do
  try
    let _ ← IO.FS.realPath p.shown
    return true
  catch _ => return false

/-- Takes what is at a path into a tree. -/
def take (cwd : Path) (files : FileTree) (p : Path) : IO FileTree := do
  match p.absolute? cwd with
  | none => return files
  | some p =>
    if ← exists? p then
      try
        let content := (← IO.FS.readBinFile p.shown).data.toList
        let runnable := content.take 2 == Utf8.encode "#!"
        return withNode files (locationOf p) (.file content runnable)
      catch _ => return withDirectory files (locationOf p)
    else return files

/-- Takes what is at some paths into a tree. -/
def takeAll (cwd : Path) (files : FileTree) (paths : List Path) : IO FileTree :=
  paths.foldlM (take cwd) files

/-- Writes back what differs between two trees. -/
def writeBack (old new : FileTree) : IO Unit := do
  for (l, e) in new.childrenOf [] do
    if old.entryAt? l ≠ some e then
      let path := (Command.pathOf l).shown
      match e with
      | .directory => IO.FS.createDirAll path
      | .file content _ => IO.FS.writeBinFile path ⟨content.toArray⟩
      | _ => pure ()

/-- Prints what a command has printed, and gives its exit code. -/
def finish (o : Command.Outcome) : IO UInt32 := do
  IO.print o.console.out
  IO.eprint o.console.err
  return o.code.toNat.toUInt32

/-- Looks for a path until it is there or the time is over, `waited` having passed, with so many
looks at most. -/
def waitFor (p : Path) (timeout : Duration) : Nat → Duration → IO WaitEnd
  | 0, _ => return .timedOut
  | looks + 1, waited => do
    match WaitEnd.afterLook? timeout waited (← exists? p) with
    | some ending => return ending
    | none =>
      IO.sleep 1000
      match waited.add? Command.waitPause with
      | some waited => waitFor p timeout looks waited
      | none => return .overflowed

/-- Waits for a path. -/
def wait (a : Command.WaitArguments) (g : Command.GlobalOptions) : IO UInt32 := do
  let p := Path.ofText a.target
  if !g.quiet && !(← exists? p) then IO.eprintln (Command.waitingLine p)
  let timeout : Duration := .ofSeconds a.timeout.toUInt64
  if (← waitFor p timeout (timeout.total + 1) .zero) = .appeared then return 0
  IO.eprintln (BuildError.timedOut p).message
  return 1

/-- Builds a target. -/
def build (words : List String) (a : Command.BuildArguments) (g : Command.GlobalOptions) :
    IO UInt32 := do
  let cwd := Path.ofText ((← IO.getEnv "PWD").getD "/")
  let machine : Machine := { searchPath := ⟨(← IO.getEnv "PATH").map Octets.ofText⟩ }
  let start := withDirectory Machine.standardFiles (locationOf cwd)
  let files ← take cwd start (Command.configPath a g)
  match Command.findConfig files (locationOf cwd) a g with
  | .error _ => finish (Command.run machine files (locationOf cwd) words)
  | .ok c =>
    let files ← takeAll cwd files (Command.buildPaths machine.searchPath cwd a c)
    let outcome := Command.run machine files (locationOf cwd) words
    writeBack files outcome.files
    finish outcome

end Session

end ModuleBuild

/-- Runs the program with the words of its command line. -/
def main (words : List String) : IO UInt32 := do
  match ModuleBuild.Command.parse words with
  | .ok (g, .build a) => ModuleBuild.Session.build words a g
  | .ok (g, .wait a) => ModuleBuild.Session.wait a g
  | .error _ =>
    let machine : ModuleBuild.Machine := { searchPath := ⟨none⟩ }
    ModuleBuild.Session.finish (ModuleBuild.Command.run machine .empty [] words)
