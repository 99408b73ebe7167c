import ModuleBuild.FileTree.Access

/-!
# Single changes of a file tree

The changes that a system offers to programs: one directory, one link or one file at a time. A path
that ends in slashes can name a directory only, and a link at the end of a path is meant itself.

## Main definitions

* `FileTree.makeDirectory`, `FileTree.makeLink` — make something that is not there
* `FileTree.removeFile`, `FileTree.removeEmpty` — remove a file and an empty directory
* `FileTree.rename` — moves something to another path
-/

namespace ModuleBuild

/-- A path without slashes at its end, and whether there were some. -/
def Path.withoutEndSlashes (p : Path) : Path × Bool :=
  let kept := (p.text.toList.reverse.dropWhile (· = '/')).reverse
  if kept = [] then (p, false) else (⟨String.ofList kept⟩, kept.length < p.text.length)

namespace FileTree

/-- The location that a path names, whether there is something, and whether the path ends in
slashes. What is not there must have a directory to be in. -/
def place? (t : FileTree) (cwd : Location) (p : Path) :
    Except FileFault (Location × Option Entry × Bool) := do
  let (named, slashes) := p.withoutEndSlashes
  let l ← t.locateSelf cwd named
  match t.entryAt? l with
  | some e => return (l, some e, slashes)
  | none => if t.isDirectoryAt l.dropLast then return (l, none, slashes) else throw .notFound

/-- Makes a directory. -/
def makeDirectory (t : FileTree) (cwd : Location) (p : Path) : Except FileFault FileTree := do
  match ← t.place? cwd p with
  | (_, some _, _) => throw .alreadyExists
  | (l, none, _) => return t.put l (.directory [])

/-- Makes a link. -/
def makeLink (t : FileTree) (cwd : Location) (target p : Path) : Except FileFault FileTree := do
  match ← t.place? cwd p with
  | (_, some _, _) => throw .alreadyExists
  | (_, none, true) => throw .notFound
  | (l, none, false) => return t.put l (.link target)

/-- Removes a file, a link or a device. -/
def removeFile (t : FileTree) (cwd : Location) (p : Path) : Except FileFault FileTree := do
  match ← t.place? cwd p with
  | (_, none, _) => throw .notFound
  | (_, some .directory, _) => throw .isDirectory
  | (_, some _, true) => throw .notDirectory
  | (l, some _, false) => return t.removeBelow l

/-- Removes an empty directory. No directory is removed by a dot. -/
def removeEmpty (t : FileTree) (cwd : Location) (p : Path) : Except FileFault FileTree := do
  match ← t.place? cwd p with
  | (_, none, _) => throw .notFound
  | (l, some .directory, _) =>
    if p.withoutEndSlashes.1.pieces.getLast? = some ['.'] then throw .belowItself
    else if t.namesAt l ≠ [] then throw .notEmpty
    else return t.removeBelow l
  | (_, some _, _) => throw .notDirectory

/-- Whether a path ends in one dot or two. -/
def endsInDots (p : Path) : Bool :=
  [some ['.'], some ['.', '.']].contains p.withoutEndSlashes.1.pieces.getLast?

/-- Moves something to another path, in place of what is there. A directory takes only the place of
an empty one, and does not come to lie below itself. Nothing is moved by a dot. -/
def rename (t : FileTree) (cwd : Location) (source target : Path) : Except FileFault FileTree := do
  if endsInDots source || endsInDots target || source.text = "/" then throw .busy
  match ← t.place? cwd source, ← t.place? cwd target with
  | (_, none, _), _ => throw .notFound
  | (l, some e, slashes), (m, there, endsSlashes) =>
    let isDirectory := e == .directory
    if (slashes || endsSlashes) && !isDirectory then throw .notDirectory
    else if l = m then return t
    else if isDirectory && l.isPrefixOf m then throw .belowItself
    else
      match there with
      | some .directory =>
        if !isDirectory then throw .isDirectory
        if t.namesAt m ≠ [] then throw .notEmpty
      | some _ => if isDirectory then throw .notDirectory
      | none => pure ()
      match t.nodeAt? l with
      | some node => return (t.removeBelow l).put m node
      | none => throw .notFound

end FileTree

end ModuleBuild
