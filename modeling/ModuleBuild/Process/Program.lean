import ModuleBuild.Process.Utility.Edit
import ModuleBuild.Process.Utility.Environment
import ModuleBuild.Process.Utility.Files
import ModuleBuild.Process.Utility.Lines
import ModuleBuild.Process.Utility.Listing
import ModuleBuild.Process.Utility.Question
import ModuleBuild.Process.Utility.Search
import ModuleBuild.Process.Utility.Words
import ModuleBuild.Shell.Start

/-!
# The programs of a machine

A machine has a shell and small programs. Each of them is a file that begins with the mark of
programs and holds its name behind it, so that a copy of the file is the same program.

## Main definitions

* `Program` — programs; `Program.start` runs one
* `Program.named` — the programs of a machine by their names
* `Program.content` — what the file of a program holds
* `Program.ofContent?` — the program that a file is
-/

namespace ModuleBuild

/-- A program. -/
inductive Program where
  /-- Runs scripts. -/
  | shell
  /-- Runs other programs. -/
  | launcher (run : Launcher)
  /-- Works by itself, and ends with a code. -/
  | utility (run : Job Nat)

namespace Program

/-- What comes of output of a program that cannot be written. -/
def lossOf (name : String) : Utility.Loss :=
  let told (what : String) (fault : FileFault) : String := what ++ ": " ++ fault.reason
  let usual := told "write error"
  match name with
  | "ls" => { status := 2 }
  | "grep" => { status := 2 }
  | "egrep" => { status := 2 }
  | "fgrep" => { status := 2 }
  | "expr" => { status := 3 }
  | "sort" => {
      status := 2
      messages := fun fault => [told "fflush failed: 'standard output'" fault, "write error"] }
  | "sed" => {
      status := 4
      messages := fun fault =>
        [told ("couldn't " ++ (if fault = .notOpen then "close" else "flush") ++ " stdout") fault] }
  | "cat" => {
      messages := fun fault =>
        [if fault = .notOpen then told "standard output" fault else usual fault] }
  | "wc" => {
      messages := fun fault => [if fault = .notOpen then usual fault else "write error"] }
  | "yes" => { messages := fun fault => [told "standard output" fault] }
  | "tee" => { messages := fun fault => [told "'standard output'" fault] }
  | _ => {}

/-- The programs of a machine by their names. -/
def named : List (String × Program) :=
  let utilities : List (String × Job Nat) :=
    [("[", Utility.bracket), ("basename", Utility.basename), ("cat", Utility.cat),
      ("chmod", Utility.chmod), ("cp", Utility.cp), ("cut", Utility.cut),
      ("dirname", Utility.dirname), ("echo", Utility.echo), ("egrep", Utility.egrep),
      ("expr", Utility.expr), ("false", Utility.fail), ("fgrep", Utility.fgrep),
      ("grep", Utility.grep), ("head", Utility.head), ("ln", Utility.ln), ("ls", Utility.ls),
      ("mkdir", Utility.mkdir), ("mv", Utility.mv), ("printf", Utility.printf),
      ("pwd", Utility.pwd), ("readlink", Utility.readlink), ("rm", Utility.rm),
      ("rmdir", Utility.rmdir), ("sed", Utility.sed), ("seq", Utility.seq),
      ("sleep", Utility.sleep), ("sort", Utility.sort), ("tac", Utility.tac),
      ("tail", Utility.tail), ("tee", Utility.tee), ("test", Utility.test),
      ("touch", Utility.touch), ("tr", Utility.tr), ("true", Utility.succeed),
      ("uniq", Utility.uniq), ("wc", Utility.wc), ("yes", Utility.yes)]
  let launchers : List (String × Launcher) :=
    [("env", Utility.env), ("find", Utility.find), ("xargs", Utility.xargs)]
  [("sh", shell), ("dash", shell)] ++ launchers.map (fun p => (p.1, launcher p.2)) ++
    utilities.map fun p => (p.1, utility (Utility.withLoss (lossOf p.1) p.2))

/-- The mark of programs. -/
def mark : Bytes := [0x7f, 0x45, 0x4c, 0x46]

/-- What the file of a program holds. -/
def content (name : String) : Bytes := mark ++ Utf8.encode name

/-- The name of the program that a file is. -/
def nameOf? (bytes : Bytes) : Option String :=
  if bytes.take mark.length == mark then Utf8.decode? (bytes.drop mark.length) else none

/-- The program that a file is. -/
def ofContent? (bytes : Bytes) : Option Program :=
  (nameOf? bytes).bind fun name => named.lookup name

/-- Runs a program, `execute` running others. -/
def start (execute : Execute) (task : Task) (system : System) : Program → Ending × System
  | shell => Shell.start execute task system
  | launcher run => (run execute task).run system
  | utility run =>
    let (code, system) := (run task).run system
    (.code (code % 256), system)

end Program

end ModuleBuild
