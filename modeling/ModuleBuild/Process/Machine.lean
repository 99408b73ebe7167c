import ModuleBuild.Process
import ModuleBuild.Process.Interpreter
import ModuleBuild.Process.Program

/-!
# Machines

A machine runs the programs that are in its files: those that belong to it, and scripts, which name
in their first line the program that is to read them. A tool call starts a program in a directory,
which is entered before the program is looked for, and ends with what the program has written.

## Main definitions

* `Machine` — where programs are looked for
* `Machine.load` — the program that a path leads to, and what it is given
* `Machine.execute` — runs the program that a path leads to
* `Machine.runner` — carries out tool calls by running programs
* `Machine.standardFiles` — the files of a machine

## Implementation notes

A program may run other programs; `depth` bounds how many are inside one another.
-/

namespace ModuleBuild

/-- What programs are run with. -/
structure Machine where
  /-- Where programs are looked for. -/
  searchPath : SearchPath

namespace Machine

/-! ### Programs -/

/-- How long one argument of a program can be, with the zero behind it. -/
def argumentLimit : Nat := 131072

/-- How long the arguments and the environment of a program can be together. -/
def totalLimit : Nat := 2097152

/-- Whether a program can be given its arguments and its environment. -/
def fits (path : Path) (task : Task) : Bool :=
  let texts := task.name :: task.arguments ++ task.environment.map fun (n, v) => n ++ "=" ++ v
  let sizes := texts.map fun s => s.length + 1
  sizes.all (· ≤ argumentLimit) &&
    sizes.foldl (· + ·) 0 + 8 * (texts.length + 2) + path.text.length + 1 ≤ totalLimit

/-- What the program that reads a script is given. -/
def scriptTask (path : Path) (task : Task) (i : Interpreter) : Task :=
  { task with
    name := Octets.ofBytes i.path
    arguments := (i.argument.map Octets.ofBytes).toList ++
      path.text :: task.arguments }

/-- The program that a path leads to, and what it is given; `fuel` bounds how many scripts name one
another. -/
def load (files : FileTree) : Nat → Path → Task → Except FileFault (Program × Task)
  | 0, _, _ => .error .tooManyLinks
  | fuel + 1, path, task => do
    match ← files.entry task.cwd path with
    | (_, .file content true) =>
      if !fits path task then throw .argumentsTooLong
      match Program.ofContent? content, Interpreter.ofBytes? content with
      | some program, _ => return (program, task)
      | none, some i =>
        let inner := scriptTask path task i
        load files fuel ⟨inner.name⟩ inner
      | none, none => throw .notProgram
    | _ => throw .notPermitted

/-- How many scripts can name one another. -/
def scriptLimit : Nat := 6

/-- Runs the program that a path leads to. -/
def execute : Nat → Execute
  | 0 => fun _ _ _ => .error .notFound
  | depth + 1 => fun path task system => do
    let (program, task) ← load system.files scriptLimit path task
    return program.start (execute depth) task system

/-- How many programs can be inside one another. -/
def depthLimit : Nat := 100

/-! ### Tool calls -/

/-- How a program has ended, and what it has done. -/
structure Finished where
  /-- The exit code, unless a signal ended the program. -/
  code : Option Nat
  /-- What it has written. -/
  out : Bytes
  /-- What it has written as error output. -/
  err : Bytes
  /-- The files as it leaves them. -/
  files : FileTree

/-- The environment of the programs that a machine starts. -/
def environment (m : Machine) : List (String × String) :=
  (m.searchPath.text.map fun text => ("PATH", text)).toList

/-- The number of the program that starts all others. -/
def firstNumber : Nat := 7919

/-- The answer to a tool call. -/
def answer (m : Machine) (cwd : Location) (i : Invocation) (files : FileTree) :
    Except FileFault Finished := do
  if (i.program.text :: i.cwd.text :: i.arguments).any (·.toList.contains '\x00') then
    throw .zeroInArgument
  match ← files.entry cwd i.cwd with
  | (place, .directory) =>
    let system : System := { files, lastNumber := firstNumber }
    let (input, system) :=
      system.add { medium := .device .null, readable := true, writable := false }
    let (_, out, system) := system.addPipe []
    let (_, err, system) := system.addPipe []
    let (number, system) := system.withNumber
    let task : Task :=
      { name := i.program.text
        arguments := i.arguments
        environment := m.environment
        cwd := place
        streams := [(0, input), (1, out), (2, err)]
        number
        parent := firstNumber }
    let (ending, system) ← Launch.run (execute depthLimit) m.searchPath task system
    return {
      code := ending.code?
      out := system.contentOf out
      err := system.contentOf err
      files := system.files }
  | _ => throw .notDirectory

/-- Carries out tool calls by running programs, for a caller in the working directory `cwd`. -/
def runner {σ : Type} (m : Machine) (cwd : Location) : Runner σ where
  run i files st :=
    match m.answer cwd i files with
    | .ok f =>
      (.ok {
        code := f.code.map Int.ofNat
        stdout := Utf8.decodeLossy f.out
        stderr := Utf8.decodeLossy f.err }, f.files, st)
    | .error fault => (.error fault, files, st)

/-! ### Files -/

/-- The files of the programs of a machine. -/
def programFiles : List (String × Node) :=
  Program.named.map fun (name, _) => (name, .file (Program.content name) true)

/-- The devices of a machine. -/
def devices : List (String × Node) :=
  let stream (n : Nat) : Node := .device (.stream n)
  [("null", .device .null), ("zero", .device .zero), ("full", .device .full), ("stdin", stream 0),
    ("stdout", stream 1), ("stderr", stream 2),
    ("fd", .directory ((List.range 10).map fun n => (toString n, stream n)))]

/-- The files of a machine that holds nothing but its programs. -/
def standardFiles : FileTree :=
  let empty (name : String) : String × Node := (name, .directory [])
  { entries := [
    ("bin", .link ⟨"usr/bin"⟩), ("dev", .directory devices), empty "etc", empty "home",
    ("lib", .link ⟨"usr/lib"⟩), empty "opt", empty "root", empty "tmp",
    ("usr", .directory
      [("bin", .directory programFiles), empty "lib",
        ("local", .directory [empty "bin", empty "lib"])]),
    empty "var"] }

end Machine

end ModuleBuild
