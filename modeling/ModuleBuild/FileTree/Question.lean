import ModuleBuild.FileTree.Access

/-!
# Questions about files

A condition may ask what is at a path: a file, a directory, a link or a device, and whether it may
be run. Everything may be read and written.

## Main definitions

* `FileTree.isLink` — whether a path names a link
* `FileTree.answers` — the answer to a question that a sign asks about a path
* `FileTree.isSame` — whether two paths lead to the same place
-/

namespace ModuleBuild

namespace FileTree

/-- Whether a path names a link. -/
def isLink (t : FileTree) (cwd : Location) (path : Path) : Bool :=
  match t.locateSelf cwd path with
  | .ok l =>
    match t.entryAt? l with
    | some (.link _) => true
    | _ => false
  | .error _ => false

/-- The answer to a question that a sign asks about what is in one place. -/
def entryAnswers (sign : String) (e : Entry) : Bool :=
  if ["-e", "-r", "-w", "-O", "-G"].contains sign then true
  else
    match e with
    | .file content runnable =>
      sign == "-f" || (sign == "-s" && !content.isEmpty) || (sign == "-x" && runnable)
    | .directory => ["-d", "-s", "-x"].contains sign
    | .device _ => sign == "-c"
    | .link _ => false

/-- The answer to a question that a sign asks about a path. -/
def answers (t : FileTree) (cwd : Location) (sign : String) (path : Path) : Bool :=
  if sign = "-h" ∨ sign = "-L" then t.isLink cwd path
  else
    match t.entry cwd path with
    | .error _ => false
    | .ok (_, e) => entryAnswers sign e

/-- The place that a path leads to, if there is anything. -/
def placeOf? (t : FileTree) (cwd : Location) (path : Path) : Option Location :=
  (t.locate cwd path).toOption.filter fun l => (t.entryAt? l).isSome

/-- Whether two paths lead to the same place. -/
def isSame (t : FileTree) (cwd : Location) (a b : Path) : Bool :=
  (t.placeOf? cwd a).isSome && t.placeOf? cwd a == t.placeOf? cwd b

end FileTree

end ModuleBuild
