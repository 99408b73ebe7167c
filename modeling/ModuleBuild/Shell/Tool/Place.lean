import ModuleBuild.Shell.Tool.Basic

/-!
# Built-in tools for the working directory

`cd` changes the working directory and `pwd` writes it. A script keeps the way that has led to its
working directory, so two dots lead back on that way, even where it went through a link.

## Main definitions

* `Shell.Tool.wayFrom` — the way that a path adds to another one
* `Shell.Tool.changeDirectory`, `Shell.Tool.tellDirectory` — the tools
-/

namespace ModuleBuild

namespace Shell

namespace Tool

/-- The names of a way after one more piece, the last name first. -/
def wayStep (names : List String) (piece : String) : List String :=
  match piece with
  | "" => names
  | "." => names
  | ".." => names.drop 1
  | _ => piece :: names

/-- The names of a way after more pieces, the last name first. -/
def wayAlong (names : List String) (pieces : List String) : List String :=
  pieces.foldl wayStep names

/-- The pieces of a path. -/
def piecesOf (path : String) : List String := (path.toList.splitOn '/').map String.ofList

/-- The slashes that the path in front begins with: two are kept, and more count as one. -/
def rootOf (path : String) : String :=
  match path.toList with
  | '/' :: '/' :: '/' :: _ => "/"
  | '/' :: '/' :: _ => "//"
  | _ => "/"

/-- The way to where a path leads, from the end of another way. -/
def wayFrom (place path : String) : String :=
  let start := if path.startsWith "/" then path else place
  let names := wayAlong [] (piecesOf start)
  let names := if path.startsWith "/" then names else wayAlong names (piecesOf path)
  rootOf start ++ "/".intercalate names.reverse

/-- The text of a location. -/
def locationText (l : Location) : String := "/" ++ "/".intercalate l

/-- Goes to the directory that a path leads to, if there is one. Where `physical` says so, links on
the way are not kept. -/
def goTo (physical : Bool) (path : String) : Act Bool := do
  let st ← get
  let way := if physical then path else wayFrom st.place path
  match st.system.files.entry st.task.cwd ⟨way⟩ with
  | .ok (l, .directory) =>
    let place := if physical then locationText l else way
    mark "OLDPWD" fun v => { v with exported := true }
    assign "OLDPWD" st.place
    set { (← get) with task := { st.task with cwd := l }, place }
    mark "PWD" fun v => { v with exported := true }
    assign "PWD" place
    return true
  | _ => return false

/-- Whether a path begins with a slash, or with a piece of dots. -/
def isExplicit (path : String) : Bool :=
  path.startsWith "/" || ["." , ".."].contains ((piecesOf path).headD "")

/-- Whether links on the way are not kept, as the last option says. -/
def isPhysical (options : List (Char × String)) : Bool := lastOption options == some 'P'

/-- Changes the working directory. A path is looked for in the directories of `CDPATH`, and a hyphen
leads back. -/
def changeDirectory (arguments : List String) : Act Nat := do
  let (options, arguments) ← optionsOf "LP" arguments
  let physical := isPhysical options
  let st ← get
  let goesBack := arguments.head? == some "-"
  let target := match arguments with
    | [] => (st.value? "HOME").getD ""
    | "-" :: _ => (st.value? "OLDPWD").getD ""
    | path :: _ => path
  let named := if target.isEmpty then "." else target
  let places := if isExplicit target then [] else piecesBetween (st.value? "CDPATH")
  let candidates := places.map fun place =>
    (!place.isEmpty, if place.isEmpty then named else place ++ "/" ++ named)
  let isHere (path : String) : Bool :=
    st.system.files.isDirectory st.task.cwd ⟨path⟩
  let (told, path) := (candidates.find? fun c => isHere c.2).getD (false, named)
  if !(← goTo physical path) then fault ("can't cd to " ++ target)
  if goesBack || told then write 0 ((← get).place ++ "\n") else return 0
where
  /-- The pieces of a text between colons. -/
  piecesBetween : Option String → List String
    | some text => (text.toList.splitOn ':').map String.ofList
    | none => []

/-- Writes the working directory. -/
def tellDirectory (arguments : List String) : Act Nat := do
  let (options, _) ← optionsOf "LP" arguments
  let st ← get
  write 0 ((if isPhysical options then locationText st.task.cwd else st.place) ++ "\n")

end Tool

end Shell

end ModuleBuild
