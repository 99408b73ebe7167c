import ModuleBuild.Shell.Expansion

/-!
# Redirections

A redirection connects a stream with a file, with what another stream is connected with, or with a
text. The redirections of a command are carried out from left to right, and their effect ends with
the command.

## Main definitions

* `Shell.Connection` — what a stream is to be connected with
* `Shell.connect` — connects a stream
* `Shell.redirected` — does something with its streams redirected
-/

namespace ModuleBuild

namespace Shell

/-- What a stream is to be connected with. -/
inductive Connection where
  /-- A file. -/
  | file (opening : System.Opening) (path : String)
  /-- What another stream is connected with. -/
  | stream (n : Nat)
  /-- Nothing. -/
  | nothing
  /-- A text. -/
  | text (content : String)

/-- The stream that a text names. -/
def streamOf? (text : String) : Option Nat :=
  match text.toList with
  | [c] => if c.isDigit then some (c.toNat - 48) else none
  | _ => none

/-- What a redirection asks for. A file that is to be written is not written over if an option says
so. -/
def connectionOf (outputOf : OutputOf) : Redirect → Act (Nat × Connection)
  | .file stream opening target => do
    let path ← expandText outputOf target
    let keepsFiles := (← get).hasOption 'C'
    return (stream, .file (if opening = .create ∧ !keepsFiles then .write else opening) path)
  | .copy stream target => do
    let text ← expandText outputOf target
    match streamOf? text with
    | some n => return (stream, .stream n)
    | none =>
      if text = "-" then return (stream, .nothing)
      complainAt (← get).lineBehind "Syntax error: Bad fd number"
      setStatus 2
      throw .fault
  | .text stream content => do
    let atoms ← expandParts outputOf nestingLimit false false content
    return (stream, .text (joined atoms))

/-- Why a file cannot be opened, in the words of a shell. -/
def openingReason (opening : System.Opening) (path : String) (fault : FileFault) : String :=
  let creates := !(opening matches .read)
  let reason :=
    if fault = .notFound ∨ fault = .notDirectory then
      if creates then "Directory nonexistent" else "No such file"
    else fault.reason
  "cannot " ++ (if creates then "create " else "open ") ++ path ++ ": " ++ reason

/-- Connects a stream, or says why that cannot be done. A stream that is put away for later is
closed before it goes where another one goes. -/
def connect (putsAway : Bool) (stream : Nat) (c : Connection) : Act (Option String) := do
  let st ← get
  let join (index : Nat) (system : System) : Act Unit :=
    set { st with system, task := st.task.withStream stream index }
  match c with
  | .nothing => set { st with task := st.task.withoutStream stream }
  | .stream n =>
    if n ≠ stream then
      match st.task.stream? n with
      | some index => join index st.system
      | none =>
        if putsAway then set { st with task := st.task.withoutStream stream }
        return some (toString n ++ ": " ++ FileFault.notOpen.reason)
  | .text content =>
    let (index, _, system) := st.system.addPipe (Octets.toBytes content)
    join index system
  | .file opening path =>
    match st.task.openPath st.system path opening with
    | .error fault => return some (openingReason opening path fault)
    | .ok (index, system) => join index system
  return none

/-- Connects streams up to the first one that cannot be connected. Those that have not been `moved`
are put away. -/
def connectAll (moved : Nat → Bool) : List (Nat × Connection) → Act (Option String)
  | [] => return none
  | (stream, c) :: rest => do
    match ← connect (!moved stream) stream c with
    | some message => return some message
    | none => connectAll (fun n => n == stream || moved n) rest

/-- How long streams are redirected. -/
inductive Duration where
  /-- As long as a command runs. -/
  | command
  /-- As long as the script runs. -/
  | script
  /-- As long as a copy of the script runs. -/
  | copy
  deriving DecidableEq

/-- Does something with its streams redirected, or does something else if they cannot be. -/
def redirected (outputOf : OutputOf) (duration : Duration) (redirects : List Redirect)
    (refused : Act Unit) (body : Act Unit) : Act Unit := do
  if redirects.isEmpty then return ← body
  let connections ← redirects.mapM (connectionOf outputOf)
  let streams := (← get).task.streams
  let restore : Act Unit := modify fun st => { st with task := { st.task with streams } }
  match ← connectAll (fun _ => duration == .copy) connections with
  | some message =>
    complain message
    restore
    setStatus 2
    refused
  | none => if duration = .command then ensuring body restore else body

end Shell

end ModuleBuild
