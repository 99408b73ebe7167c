import ModuleBuild.Process.Search
import ModuleBuild.Process.Task

/-!
# Launching programs by name

A program that is named by a path is run as it is. For a bare name the directories of a search path
are gone through until one of them holds a program that can be run. What may not be run is passed
over like what is not there, but remembered.

## Main definitions

* `SearchPath.candidates` — the paths that the name of a program can stand for
* `Launch.first` — the first of several attempts that does not fail
* `Launch.run` — runs a program by name
-/

namespace ModuleBuild

/-- The paths that the name of a program can stand for. -/
def SearchPath.candidates (s : SearchPath) (name : Path) : Except FileFault (List Path) :=
  if name.text.isEmpty then .error .notFound
  else if name.text.toList.contains '/' then .ok [name]
  else if name.text.length > 255 then .error .nameTooLong
  else .ok (s.directories.map fun d => d.join name)

/-- The search path in an environment. -/
def SearchPath.ofEnvironment (environment : List (String × String)) : SearchPath :=
  ⟨environment.lookup "PATH"⟩

namespace Launch

/-- The first of several attempts that does not fail. Any fault but those that something is not
there or not allowed is final. -/
def first {α β : Type} (attempt : α → Except FileFault β) :
    Bool → FileFault → List α → Except FileFault β
  | denied, last, [] => .error (if denied then .notPermitted else last)
  | denied, last, a :: rest =>
    match attempt a with
    | .ok b => .ok b
    | .error .notPermitted => first attempt true last rest
    | .error .notFound => first attempt denied .notFound rest
    | .error .notDirectory => first attempt denied .notDirectory rest
    | .error fault => .error fault

/-- Runs the first of some programs that can be run. -/
def run (attempt : Path → Task → System → Except FileFault (Ending × System))
    (search : SearchPath) (task : Task) (system : System) : Except FileFault (Ending × System) := do
  let paths ← search.candidates ⟨task.name⟩
  match paths with
  | [path] => attempt path task system
  | _ => first (attempt · task system) false .notFound paths

/-- Where the shell is. -/
def shellPath : Path := ⟨"/bin/sh"⟩

/-- Runs the program at a path. What is no program is given to the shell as a script. -/
def orScript (execute : Execute) : Execute := fun path task system =>
  match execute path task system with
  | .error .notProgram =>
    let arguments := path.text :: task.arguments
    execute shellPath { task with name := shellPath.text, arguments } system
  | result => result

end Launch

end ModuleBuild
