import ModuleBuild.FileTree.Basic

/-!
# Reading and changing files by path

A path is followed from the root, or from the working directory, one name at a time; a link on the
way is replaced by the path that it stands for. Following a path can fail in the few ways that
`FileFault` lists. On this rest the questions whether a path exists and what it is, and the
operations that read, write and create.

## Main definitions

* `FileFault` — why a file operation fails, with its wording
* `FileTree.locate` — the location that a path leads to
* `FileTree.contains`, `FileTree.isFile`, `FileTree.isDirectory` — questions about a path
* `FileTree.read`, `FileTree.readText` — the content of a file
* `FileTree.write`, `FileTree.createDirectories`, `FileTree.remove` — changes
* `FileTree.afterWrite` — what an attempt to write a file leaves, also one that fails

## Implementation notes

Every operation takes the working directory as a location. A path with a zero character, or one that
is too long, is refused before it is followed, as is a name longer than a directory can hold.

A file is written by emptying it and putting the content in, so it is cut off where there is no room
for all of it. Space is given out in whole blocks. What one file takes is not taken from the others,
and there is always room for a directory, a link or an empty file. A limit of its own that a program
may have for the size of its files is left out.

Reading something that has no end takes all the memory there is, and is taken to fail then.
-/

namespace ModuleBuild

/-- Why a file operation fails. -/
inductive FileFault where
  /-- Nothing is there. -/
  | notFound
  /-- What is there may not be run. -/
  | notPermitted
  /-- Something is there already. -/
  | alreadyExists
  /-- A directory is needed, and something else is there. -/
  | notDirectory
  /-- A directory is there where it cannot be used. -/
  | isDirectory
  /-- A directory is not empty. -/
  | notEmpty
  /-- A directory would come to lie below itself. -/
  | belowItself
  /-- A directory is in use. -/
  | busy
  /-- A name or a path is too long. -/
  | nameTooLong
  /-- Links lead on without an end. -/
  | tooManyLinks
  /-- There is no space for what is written. -/
  | noSpace
  /-- What is read has no end. -/
  | endless
  /-- What is read or written is not open. -/
  | notOpen
  /-- What is to be run is no program. -/
  | notProgram
  /-- The arguments of a program are too long. -/
  | argumentsTooLong
  /-- A file that is to be read as text is no text. -/
  | notText
  /-- A path holds a zero character. -/
  | zeroInPath
  /-- A program or one of its arguments holds a zero character. -/
  | zeroInArgument
  /-- The empty path has no absolute form. -/
  | emptyPath
  /-- Any other reason. -/
  | other (reason : String)
  deriving DecidableEq

namespace FileFault

/-- A fault in words. -/
def reason : FileFault → String
  | notFound => "No such file or directory"
  | notPermitted => "Permission denied"
  | alreadyExists => "File exists"
  | notDirectory => "Not a directory"
  | isDirectory => "Is a directory"
  | notEmpty => "Directory not empty"
  | belowItself => "Invalid argument"
  | busy => "Device or resource busy"
  | nameTooLong => "File name too long"
  | tooManyLinks => "Too many levels of symbolic links"
  | noSpace => "No space left on device"
  | endless => "out of memory"
  | notOpen => "Bad file descriptor"
  | notProgram => "Exec format error"
  | argumentsTooLong => "Argument list too long"
  | notText => "stream did not contain valid UTF-8"
  | zeroInPath => "file name contained an unexpected NUL byte"
  | zeroInArgument => "nul byte found in provided data"
  | emptyPath => "cannot make an empty path absolute"
  | other reason => reason

/-- The number by which the system knows a fault. -/
def number? : FileFault → Option Nat
  | notFound => some 2
  | notPermitted => some 13
  | alreadyExists => some 17
  | notDirectory => some 20
  | isDirectory => some 21
  | notEmpty => some 39
  | belowItself => some 22
  | busy => some 16
  | nameTooLong => some 36
  | tooManyLinks => some 40
  | noSpace => some 28
  | notOpen => some 9
  | notProgram => some 8
  | argumentsTooLong => some 7
  | _ => none

/-- What is said about a fault. -/
def message (f : FileFault) : String :=
  match f.number? with
  | some n => f.reason ++ s!" (os error {n})"
  | none => f.reason

end FileFault

namespace FileTree

/-! ### Following a path -/

/-- How many bytes a path may have at most. -/
def pathLimit : Nat := 4095

/-- How many bytes a name may have at most. -/
def nameLimit : Nat := 255

/-- How many links may be on the way of a path. -/
def linkLimit : Nat := 40

/-- The location after one name. Two dots lead back, from the root to itself. -/
def enter (l : Location) (piece : List Char) : Location :=
  if Path.isTrivial piece then l
  else if piece = ['.', '.'] then l.dropLast
  else l ++ [String.ofList piece]

/-- Whether a name is longer than a directory can hold. -/
def isTooLong (piece : List Char) : Bool := nameLimit < piece.length

/-- Follows names through directories. Only the last name may lead to nothing or to a file. At a
link, `follow` goes on with the path that it stands for. -/
def walkWith (follow : Location → List (List Char) → Except FileFault Location) (t : FileTree)
    (l : Location) : List (List Char) → Except FileFault Location
  | [] => .ok l
  | piece :: rest =>
    match t.entryAt? l with
    | none => .error .notFound
    | some .directory =>
      if isTooLong piece then .error .nameTooLong
      else
        match t.entryAt? (enter l piece) with
        | some (.link target) =>
          follow (if target.isAbsolute then [] else l) (target.pieces ++ rest)
        | _ => walkWith follow t (enter l piece) rest
    | some _ => .error .notDirectory

/-- Follows names through directories and so many links. -/
def walk (t : FileTree) : Nat → Location → List (List Char) → Except FileFault Location
  | 0 => walkWith (fun _ _ => .error .tooManyLinks) t
  | links + 1 => walkWith (walk t links) t

/-- Where a path begins. -/
def startOf (cwd : Location) (p : Path) : Location := if p.isAbsolute then [] else cwd

/-- Why a path is refused before it is followed. -/
def refusal? (p : Path) : Option FileFault :=
  if p.text.isEmpty then some .notFound
  else if p.text.toList.contains '\x00' then some .zeroInPath
  else if pathLimit < p.text.length then some .nameTooLong
  else none

/-- The location that a path leads to, from the working directory `cwd`. A slash at the end asks
for a directory, and so counts as one more name. -/
def locate (t : FileTree) (cwd : Location) (p : Path) : Except FileFault Location :=
  match refusal? p with
  | some fault => .error fault
  | none => t.walk linkLimit (startOf cwd p) p.pieces

/-- What a path leads to. -/
def entry (t : FileTree) (cwd : Location) (p : Path) : Except FileFault (Location × Entry) := do
  let l ← t.locate cwd p
  match t.entryAt? l with
  | some e => return (l, e)
  | none => throw .notFound

/-! ### Questions -/

/-- Whether a path leads to something. -/
def contains (t : FileTree) (cwd : Location) (p : Path) : Bool := (t.entry cwd p).isOk

/-- Whether a path leads to a file. -/
def isFile (t : FileTree) (cwd : Location) (p : Path) : Bool :=
  match t.entry cwd p with
  | .ok (_, .file ..) => true
  | _ => false

/-- Whether a path leads to a directory. -/
def isDirectory (t : FileTree) (cwd : Location) (p : Path) : Bool :=
  match t.entry cwd p with
  | .ok (_, .directory) => true
  | _ => false

/-- Whether a path leads to a device. -/
def isDevice (t : FileTree) (cwd : Location) (p : Path) : Bool :=
  match t.entry cwd p with
  | .ok (_, .device _) => true
  | _ => false

/-! ### Reading -/

/-- The content of a file. A device has none to be kept; it is empty, or it has no end. -/
def read (t : FileTree) (cwd : Location) (p : Path) : Except FileFault Bytes := do
  match ← t.entry cwd p with
  | (_, .file content _) => return content
  | (_, .device .zero) => throw .endless
  | (_, .device .full) => throw .endless
  | (_, .device _) => return []
  | (_, .link _) => throw .tooManyLinks
  | (_, .directory) => throw .isDirectory

/-- The content of a file as text. -/
def readText (t : FileTree) (cwd : Location) (p : Path) : Except FileFault String := do
  match Utf8.decode? (← t.read cwd p) with
  | some s => return s
  | none => throw .notText

/-! ### Writing -/

/-- Texts between slashes without empty ones at the end. -/
def dropEmptyEnd (pieces : List (List Char)) : List (List Char) :=
  (pieces.reverse.dropWhile (· = [])).reverse

/-- The location of a file that is to be written. No file is written by a path that ends in a slash,
be there a directory or nothing. -/
def locateFile (t : FileTree) (cwd : Location) (p : Path) : Except FileFault Location :=
  match t.locate cwd p with
  | .ok l => .ok l
  | .error fault =>
    if p.pieces.getLast? = some [] ∧ (refusal? p).isNone then
      match t.walk linkLimit (startOf cwd p) (dropEmptyEnd p.pieces).dropLast with
      | .ok l => .error (if t.isDirectoryAt l then .isDirectory else fault)
      | .error fault => .error fault
    else .error fault

/-- How many bytes a block has. -/
def blockSize : Nat := 512

/-- The part of a content for which a file at a location has room. -/
def fitting (t : FileTree) (l : Location) (content : Bytes) : Bytes :=
  match t.room l with
  | some blocks => content.take (blocks * blockSize)
  | none => content

/-- Puts a file at a location, if there is room for all of it. -/
def putFile (t : FileTree) (l : Location) (content : Bytes) (runnable : Bool) :
    Except FileFault FileTree :=
  if t.fitting l content = content then .ok (t.put l (.file content runnable))
  else .error .noSpace

/-- Writes a file at a location. A file that is there keeps its leave to be run. -/
def writeAt (t : FileTree) (l : Location) (content : Bytes) : Except FileFault FileTree :=
  match t.entryAt? l with
  | some .directory => .error .isDirectory
  | some (.link _) => .error .tooManyLinks
  | some (.device d) => if d = .full ∧ content ≠ [] then .error .noSpace else .ok t
  | some (.file _ runnable) => t.putFile l content runnable
  | none =>
    if t.isDirectoryAt l.dropLast then t.putFile l content false
    else .error .notFound

/-- Writes a file. -/
def write (t : FileTree) (cwd : Location) (p : Path) (content : Bytes) :
    Except FileFault FileTree :=
  match t.locateFile cwd p with
  | .error fault => .error fault
  | .ok l => t.writeAt l content

/-- The files after an attempt to write one. Where there is no room for the content, its beginning
has been written. -/
def afterWrite (t : FileTree) (cwd : Location) (p : Path) (content : Bytes) : FileTree :=
  match t.locateFile cwd p with
  | .error _ => t
  | .ok l => (t.writeAt l (t.fitting l content)).toOption.getD t

/-- Gives leave to run a file, or takes it away. -/
def setRunnable (t : FileTree) (cwd : Location) (p : Path) (runnable : Bool) :
    Except FileFault FileTree := do
  match ← t.entry cwd p with
  | (l, .file content _) => return t.put l (.file content runnable)
  | _ => return t

/-! ### Directories -/

/-- Why a name that cannot be followed keeps directories from being created. A link that leads
nowhere is in the way itself, and so is any link at the end of a path. -/
def obstacle (t : FileTree) (outer : Location) (piece : List Char) (last : Bool)
    (fault : FileFault) : FileFault :=
  match t.entryAt? (enter outer piece) with
  | some (.link _) => if last ∨ fault = .notFound then .alreadyExists else fault
  | _ => fault

/-- Creates the directories along names. The names in `done` have been followed already from
`start`, and lead to `outer`. -/
def createAlong (t : FileTree) (start : Location) (done : List (List Char)) (outer : Location) :
    List (List Char) → Except FileFault Unit × FileTree
  | [] => (.ok (), t)
  | piece :: rest =>
    let last := rest.all (· = [])
    -- The whole way is followed anew, since links count on all of it together.
    match t.walk linkLimit start (done ++ [piece]) with
    | .error fault => (.error (t.obstacle outer piece last fault), t)
    | .ok next =>
      match t.entryAt? next with
      | some .directory => createAlong t start (done ++ [piece]) next rest
      | some _ => (.error (if last then .alreadyExists else .notDirectory), t)
      | none =>
        if next ≠ enter outer piece then (.error .alreadyExists, t)
        else if t.isDirectoryAt next.dropLast = false then (.error .notFound, t)
        else createAlong (t.put next (.directory [])) start (done ++ [piece]) next rest

/-- Creates a directory and those that it lies in, as far as they are missing. What has been
created before a failure stays. A dot at the end cannot be created with the directory that it
stands for. -/
def createDirectories (t : FileTree) (cwd : Location) (p : Path) :
    Except FileFault Unit × FileTree :=
  let start := startOf cwd p
  match refusal? p with
  | some fault => (if p.text.isEmpty then .ok () else .error fault, t)
  | none =>
    if (dropEmptyEnd p.pieces).getLast? = some ['.'] ∧ t.isDirectory cwd p = false then
      let outer := createAlong t start [] start (Path.dropTrivialEnd p.pieces).dropLast
      (outer.1.bind fun () => .error .notFound, outer.2)
    else createAlong t start [] start p.pieces

/-! ### Removing -/

/-- The location that a path names, a link at its end being meant itself. -/
def locateSelf (t : FileTree) (cwd : Location) (p : Path) : Except FileFault Location :=
  match refusal? p, p.pieces.getLast? with
  | some fault, _ => .error fault
  | none, none => t.locate cwd p
  | none, some last =>
    if Path.isTrivial last ∨ last = ['.', '.'] then t.locate cwd p
    else
      match t.walk linkLimit (startOf cwd p) p.pieces.dropLast with
      | .error fault => .error fault
      | .ok outer => walkWith (fun _ _ => .ok (enter outer last)) t outer [last]

/-- Removes a file, or a directory with all it holds. -/
def remove (t : FileTree) (cwd : Location) (p : Path) : Except FileFault FileTree := do
  let l ← t.locateSelf cwd p
  match t.entryAt? l with
  | some _ => return t.removeBelow l
  | none => throw .notFound

end FileTree

end ModuleBuild
