import ModuleBuild.FileTree.Access

/-!
# What running programs share

Programs share the files, the pipes between them, and the files that they have open. A file that is
open has a place up to which it has been read or written; a program that starts another one passes
its open files on, and both move that place.

## Main definitions

* `Medium`, `OpenFile` — a file that is open, and what it is connected with
* `System` — what running programs share
* `System.write`, `System.take`, `System.giveBack` — write to an open file and read from it
* `System.addPipe`, `System.contentOf` — pipes

## Implementation notes

A program that writes to a pipe is run to its end before the one that reads from it, so a pipe holds
everything that is written to it.
-/

namespace ModuleBuild

/-- What an open file is connected with. -/
inductive Medium where
  /-- A file in the tree. -/
  | file (l : Location)
  /-- A directory. -/
  | directory
  /-- A device. -/
  | device (d : Device)
  /-- A pipe. -/
  | pipe (index : Nat)
  deriving DecidableEq

/-- An open file. -/
structure OpenFile where
  /-- What it is connected with. -/
  medium : Medium
  /-- Whether it can be read. -/
  readable : Bool
  /-- Whether it can be written. -/
  writable : Bool
  /-- Whether everything is written at the end. -/
  appends : Bool := false
  /-- The place at which it is read and written. -/
  offset : Nat := 0

/-- What has been written to a pipe and not been read. -/
structure Pipe where
  /-- The bytes at the front. -/
  front : Bytes := []
  /-- What has been written after them, the last piece first. -/
  back : List Bytes := []
  deriving Inhabited

/-- All the bytes in a pipe. -/
def Pipe.content (p : Pipe) : Bytes := p.front ++ p.back.reverse.flatten

/-- What running programs share. -/
structure System where
  /-- The files. -/
  files : FileTree
  /-- The open files. -/
  opened : Array OpenFile := #[]
  /-- The pipes. -/
  pipes : Array Pipe := #[]
  /-- The number of the program that was started last. -/
  lastNumber : Nat := 7919
  /-- Signals on their way, each with the number of the program it is for. -/
  signals : List (Nat × Nat) := []

namespace System

/-- The system with one more open file, and the index of that file. -/
def add (s : System) (f : OpenFile) : Nat × System :=
  (s.opened.size, { s with opened := s.opened.push f })

/-- The system with one more pipe, and the indices of its reading and its writing end. -/
def addPipe (s : System) (content : Bytes) : Nat × Nat × System :=
  let medium := Medium.pipe s.pipes.size
  let s := { s with pipes := s.pipes.push { front := content } }
  let (reading, s) := s.add { medium, readable := true, writable := false }
  let (writing, s) := s.add { medium, readable := false, writable := true }
  (reading, writing, s)

/-- A system with a new number for a program. -/
def withNumber (s : System) : Nat × System :=
  (s.lastNumber + 1, { s with lastNumber := s.lastNumber + 1 })

/-- The open file at an index with its place moved. -/
def moveTo (s : System) (index offset : Nat) : System :=
  { s with opened := s.opened.modify index fun f => { f with offset } }

/-! ### Writing -/

/-- The content of a file after bytes have been written at a place. -/
def overwrite (content : Bytes) (offset : Nat) (bytes : Bytes) : Bytes :=
  let before := content.take offset
  let gap := List.replicate (offset - before.length) 0
  before ++ gap ++ bytes ++ content.drop (offset + bytes.length)

/-- Writes bytes to the open file at an index. -/
def write (s : System) (index : Nat) (bytes : Bytes) : Except FileFault System :=
  match s.opened[index]? with
  | none => .error .notOpen
  | some f =>
    if !f.writable then .error .notOpen
    else
      match f.medium with
      | .directory => .error .isDirectory
      | .pipe p =>
        .ok { s with pipes := s.pipes.modify p fun p => { p with back := bytes :: p.back } }
      | .device d => if d = .full ∧ bytes ≠ [] then .error .noSpace else .ok s
      | .file l =>
        match s.files.entryAt? l with
        | some (.file content runnable) =>
          let offset := if f.appends then content.length else f.offset
          let files := s.files.put l (.file (overwrite content offset bytes) runnable)
          .ok ({ s with files }.moveTo index (offset + bytes.length))
        | _ => .ok s

/-! ### Reading -/

/-- Reads from the open file at an index: all there is, or up to a number of bytes. A device that
has no end is not read without a limit. -/
def take (s : System) (index : Nat) (limit : Option Nat) : Except FileFault (Bytes × System) :=
  let upTo (bytes : Bytes) : Bytes := (limit.map bytes.take).getD bytes
  match s.opened[index]? with
  | none => .error .notOpen
  | some f =>
    if !f.readable then .error .notOpen
    else
      match f.medium with
      | .directory => .error .isDirectory
      | .pipe p =>
        let content := ((s.pipes[p]?).map Pipe.content).getD []
        let bytes := upTo content
        let front := if limit.isNone then [] else content.drop bytes.length
        .ok (bytes, { s with pipes := s.pipes.modify p fun _ => { front } })
      | .device .zero => .ok (List.replicate (limit.getD 0) 0, s)
      | .device .full => .ok (List.replicate (limit.getD 0) 0, s)
      | .device _ => .ok ([], s)
      | .file l =>
        match s.files.entryAt? l with
        | some (.file content _) =>
          let bytes := upTo (content.drop f.offset)
          .ok (bytes, s.moveTo index (f.offset + bytes.length))
        | _ => .ok ([], s)

/-- Takes back the reading of bytes that were read last from the open file at an index. -/
def giveBack (s : System) (index : Nat) (bytes : Bytes) : System :=
  match s.opened[index]? with
  | some ⟨.pipe p, _, _, _, _⟩ =>
    { s with pipes := s.pipes.modify p fun p => { p with front := bytes ++ p.front } }
  | some f => s.moveTo index (f.offset - bytes.length)
  | none => s

/-- All the bytes in the pipe that the open file at an index is connected with. -/
def contentOf (s : System) (index : Nat) : Bytes :=
  match s.opened[index]? with
  | some ⟨.pipe p, _, _, _, _⟩ => ((s.pipes[p]?).map Pipe.content).getD []
  | _ => []

/-! ### Opening -/

/-- How a file is opened. -/
inductive Opening where
  /-- To be read. -/
  | read
  /-- To be written, empty. -/
  | write
  /-- To be written, empty, unless it is there already. -/
  | create
  /-- To be written at its end. -/
  | append
  /-- To be read and written. -/
  | readWrite
  deriving DecidableEq

/-- The files with an empty one at a path, if it has to be there for a way of opening it. -/
def prepare (files : FileTree) (cwd : Location) (path : Path) (opening : Opening) :
    Except FileFault FileTree :=
  match opening, files.entry cwd path with
  | .read, _ => .ok files
  | .write, _ => files.write cwd path []
  | .create, .ok (_, .file ..) => .error .alreadyExists
  | .append, .ok (_, .file ..) => .ok files
  | .readWrite, .ok (_, .file ..) => .ok files
  | _, _ => files.write cwd path []

/-- Opens the file that a path leads to, and gives its index. `own` is the index of a stream of the
program that opens it. -/
def openPath (s : System) (cwd : Location) (own : Nat → Option Nat) (path : Path)
    (opening : Opening) : Except FileFault (Nat × System) := do
  let files ← prepare s.files cwd path opening
  let s := { s with files }
  let opened (medium : Medium) : OpenFile :=
    { medium, readable := opening matches .read | .readWrite,
      writable := !(opening matches .read), appends := opening matches .append }
  match ← files.entry cwd path with
  | (l, .file ..) => return s.add (opened (.file l))
  | (_, .directory) => return s.add (opened .directory)
  | (_, .link _) => throw .tooManyLinks
  | (_, .device (.stream n)) =>
    match own n with
    | some index => return (index, s)
    | none => throw .notFound
  | (_, .device d) => return s.add (opened (.device d))

end System

end ModuleBuild
