import ModuleBuild.Process.Signal
import ModuleBuild.Process.System
import ModuleBuild.Text.Octets

/-!
# Running programs

A program that is started is given arguments, an environment, a working directory and streams, and
ends with a code or by a signal. All its texts are texts of bytes.

## Main definitions

* `Task`, `Ending` — what a program is given, and how it ends
* `Execute` — runs the program at a path
* `Job` — what a program does with what it is given
* `Job.print`, `Job.complain`, `Job.readInput`, `Job.readFile` — streams and files
-/

namespace ModuleBuild

/-- What a program is given when it is started. -/
structure Task where
  /-- The name by which it is called. -/
  name : String
  /-- Its arguments. -/
  arguments : List String
  /-- Its environment. -/
  environment : List (String × String)
  /-- The directory it is run in. -/
  cwd : Location
  /-- Its streams by their numbers, each with the index of an open file. -/
  streams : List (Nat × Nat)
  /-- Its number. -/
  number : Nat
  /-- The number of the program that has started it. -/
  parent : Nat
  /-- The signals that do nothing to it. -/
  ignored : List Nat := []

/-- How a program ends. -/
inductive Ending where
  /-- With a code. -/
  | code (n : Nat)
  /-- By a signal. -/
  | signal (n : Nat)
  deriving DecidableEq

namespace Ending

/-- The status that a script sees. -/
def status : Ending → Nat
  | code n => n
  | signal n => 128 + n

/-- The code, unless a signal has ended the program. -/
def code? : Ending → Option Nat
  | code n => some n
  | signal _ => none

end Ending

/-- Runs the program at a path, or says why it cannot be run. -/
abbrev Execute := Path → Task → System → Except FileFault (Ending × System)

namespace Task

/-- The open file of a stream. -/
def stream? (t : Task) (number : Nat) : Option Nat := t.streams.lookup number

/-- The task with an open file as a stream. -/
def withStream (t : Task) (number index : Nat) : Task :=
  { t with streams := (number, index) :: t.streams.filter (·.1 ≠ number) }

/-- The task without a stream. -/
def withoutStream (t : Task) (number : Nat) : Task :=
  { t with streams := t.streams.filter (·.1 ≠ number) }

/-- Opens a file. -/
def openPath (t : Task) (s : System) (path : String) (opening : System.Opening) :
    Except FileFault (Nat × System) :=
  s.openPath t.cwd t.stream? ⟨path⟩ opening

/-- Writes bytes to a stream. -/
def write (t : Task) (number : Nat) (bytes : Bytes) (s : System) : Except FileFault System :=
  match t.stream? number with
  | some index => s.write index bytes
  | none => .error .notOpen

end Task

/-- What a program does with what it is given and with the system. -/
abbrev Job (α : Type) := ReaderT Task (StateM System) α

namespace Job

/-- The working directory and the files. -/
def files : Job (Location × FileTree) := return ((← read).cwd, (← get).files)

/-- Changes the files, if that is possible. -/
def changeFiles (change : Location → FileTree → Except FileFault FileTree) :
    Job (Except FileFault Unit) := do
  let (cwd, files) ← Job.files
  match change cwd files with
  | .error fault => return .error fault
  | .ok files =>
    modify fun s => { s with files }
    return .ok ()

/-- Writes bytes to a stream, if that is possible. -/
def write (number : Nat) (bytes : Bytes) : Job (Except FileFault Unit) := do
  match (← read).write number bytes (← get) with
  | .error fault => return .error fault
  | .ok s =>
    set s
    return .ok ()

/-- Writes a text to the error output. -/
def complain (text : String) : Job Unit := do
  let _ ← write 2 (Octets.toBytes text)

/-- Writes the output of a program, and gives its status. -/
def print (status : Nat) (text : String) : Job Nat := do
  if text.isEmpty then return status
  match ← write 1 (Octets.toBytes text) with
  | .ok () => return status
  | .error fault =>
    complain ((← read).name ++ ": write error: " ++ fault.reason ++ "\n")
    return 1

/-- Reads the input, to its end or up to a number of bytes. -/
def readInput (limit : Option Nat) : Job (Except FileFault String) := do
  match (← read).stream? 0 with
  | none => return .error .notOpen
  | some index =>
    match (← get).take index limit with
    | .error fault => return .error fault
    | .ok (bytes, s) =>
      set s
      return .ok (Octets.ofBytes bytes)

/-- Reads a file, to its end or up to a number of bytes. -/
def readFile (path : String) (limit : Option Nat) : Job (Except FileFault String) := do
  match (← read).openPath (← get) path .read with
  | .error fault => return .error fault
  | .ok (index, s) =>
    match s.take index limit with
    | .error fault => return .error fault
    | .ok (bytes, s) =>
      set s
      return .ok (Octets.ofBytes bytes)

end Job

end ModuleBuild
