import ModuleBuild.FileTree.Access

/-!
# Looking for programs by name

A program is named by a path, or by a bare name that is looked for in the directories of a search
path.

## Main definitions

* `SearchPath` — where programs are looked for
* `SearchPath.directories` — the directories of a search path
* `SearchPath.resolve` — the file that a bare name stands for
-/

namespace ModuleBuild

/-- A list of directories between colons, unless none is set. -/
structure SearchPath where
  /-- The text of the list, with one character for each byte. -/
  text : Option String
  deriving DecidableEq

namespace SearchPath

/-- The parts of a text between colons. -/
def split (text : String) : List Path :=
  (text.toList.splitOn ':').map fun piece => ⟨String.ofList piece⟩

/-- The directories in which programs are looked for where no search path is set. -/
def standard : List Path := [⟨"/bin"⟩, ⟨"/usr/bin"⟩]

/-- The directories of a search path. -/
def directories (s : SearchPath) : List Path :=
  match s.text with
  | some text => split text
  | none => standard

/-- Whether a path is a bare name. -/
def isBare (p : Path) : Bool := p.components.length == 1 && !p.isAbsolute

/-- The first file with a bare name in the directories that are set. Any other path, and a name that
is in none of them, stands for itself. -/
def resolve (s : SearchPath) (files : FileTree) (cwd : Location) (name : Path) : Path :=
  match s.text with
  | some text =>
    if isBare name then
      (((split text).map (Path.join · name)).find? (files.isFile cwd ·)).getD name
    else name
  | none => name

end SearchPath

end ModuleBuild
