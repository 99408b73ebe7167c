import ModuleBuild.Process.Task
import ModuleBuild.Shell.Command

/-!
# The state of a running script

A running script has variables and arguments, functions, streams and a working directory. It is
stopped by an error, a signal or its own wish; a loop or a function that is left stops only the
commands in it.

## Main definitions

* `Shell.Variable`, `Shell.State` — the state
* `Shell.Stop`, `Shell.Act` — why commands are stopped, and what changes the state or stops
* `Shell.State.value?` — the value of a parameter
* `Shell.assign`, `Shell.complain`, `Shell.fault`, `Shell.print` — the steps that all else is made
  of
-/

namespace ModuleBuild

namespace Shell

/-- A variable. -/
structure Variable where
  /-- Its value, if it has one. -/
  value : Option String := none
  /-- Whether programs get it as a part of their environment. -/
  exported : Bool := false
  /-- Whether it keeps its value. -/
  fixed : Bool := false

/-- Why commands are stopped. -/
inductive Stop where
  /-- The script wishes to end. -/
  | exit
  /-- There is an error that ends a script. -/
  | fault
  /-- The script has come to its end in some other way than by its own commands. -/
  | gone (e : Ending)
  /-- So many loops are left. -/
  | breaks (loops : Nat)
  /-- So many loops but one are left, and that one goes on. -/
  | continues (loops : Nat)
  /-- A function is left. -/
  | returns

/-- A command that has been started and that nobody waits for. -/
structure SideJob where
  /-- Its number among such commands. -/
  place : Nat
  /-- The number by which signals reach it. -/
  number : Nat
  /-- How it has ended, if it has. -/
  ending : Option Ending := none
  /-- Whether its end has been waited for. -/
  isSettled : Bool := false

/-- The state of a running script. -/
structure State where
  /-- What it shares with other programs. -/
  system : System
  /-- What it has been given. -/
  task : Task
  /-- The name of the script. -/
  name : String
  /-- The arguments of the script, or of the function that runs. -/
  arguments : List String := []
  /-- The variables. -/
  bindings : List (String × Variable) := []
  /-- The variables outside of each function that runs, as far as they are hidden by others. -/
  hidden : List (List (String × Option Variable)) := []
  /-- The names that stand for texts at the start of a command. -/
  aliases : List (String × String) := []
  /-- The programs that have been found, by their names, each with its path. -/
  known : List (String × String) := []
  /-- The functions. -/
  functions : List (String × Command) := []
  /-- How many functions run. -/
  calls : Nat := 0
  /-- The options, by their letters. -/
  options : List Char := []
  /-- What is done at signals, and at the end under the number zero. -/
  traps : List (Nat × String) := []
  /-- The signals that something is to be done at. -/
  arrived : List Nat := []
  /-- The status of the last command. -/
  status : Nat := 0
  /-- The status before the commands that are run at a signal or at the end. -/
  statusBefore : Option Nat := none
  /-- The status of the last command whose output has been put into a word. -/
  outputStatus : Nat := 0
  /-- The line of the command. -/
  line : Nat := 0
  /-- The line up to which the script has been read. -/
  lineBehind : Nat := 0
  /-- The built-in tool that runs. -/
  tool : Option String := none
  /-- The working directory by the way that led to it. -/
  place : String := "/"
  /-- How many loops run. -/
  loops : Nat := 0
  /-- The number of the script. -/
  number : Nat := 0
  /-- The commands that nobody waits for, the last one first. -/
  sideJobs : List SideJob := []
  /-- The commands that nobody waits for and that have not been run yet. -/
  waiting : List (Nat × (System → Ending × System)) := []
  /-- The number of the last command that nobody waits for. -/
  lastBehind : Option Nat := none
  /-- The argument that is read as options next. -/
  optionIndex : Nat := 1
  /-- How much of the argument before it has been read as options, unless it is done with. -/
  optionPlace : Option Nat := none
  /-- The rights that new files are not given. -/
  mask : Nat := 18

/-- What changes the state of a script, or stops it. -/
abbrev Act (α : Type) := ExceptT Stop (StateM State) α

/-! ### Parameters -/

/-- The value under a name. -/
def valueIn? (bindings : List (String × Variable)) (name : String) : Option String :=
  (bindings.lookup name).bind Variable.value

/-- Variables with one of them changed. -/
def withVariable (name : String) (v : Variable) (bindings : List (String × Variable)) :
    List (String × Variable) :=
  if (bindings.lookup name).isSome then
    bindings.map fun p => if p.1 = name then (name, v) else p
  else bindings ++ [(name, v)]

/-- The options by their names, with their letters. -/
def optionNames : List (String × Char) :=
  [("errexit", 'e'), ("noglob", 'f'), ("ignoreeof", 'I'), ("interactive", 'i'), ("monitor", 'm'),
    ("noexec", 'n'), ("stdin", 's'), ("xtrace", 'x'), ("verbose", 'v'), ("vi", 'V'),
    ("emacs", 'E'), ("noclobber", 'C'), ("allexport", 'a'), ("notify", 'b'), ("nounset", 'u'),
    ("privileged", 'p'), ("nolog", '\x00'), ("debug", '\x00')]

/-- The letters of the options, in the order in which they are shown. -/
def optionLetters : List Char := (optionNames.map Prod.snd).reverse.filter (· ≠ '\x00')

namespace State

/-- Whether an option is set. -/
def hasOption (st : State) (letter : Char) : Bool := st.options.contains letter

/-- The characters at which values fall apart. -/
def separators (st : State) : List Char :=
  match valueIn? st.bindings "IFS" with
  | some text => text.toList
  | none => [' ', '\t', '\n']

/-- What stands between arguments that are put together. -/
def joint (st : State) : String :=
  match valueIn? st.bindings "IFS" with
  | some text => String.ofList (text.toList.take 1)
  | none => " "

/-- The value of a parameter. -/
def value? (st : State) (name : String) : Option String :=
  match name with
  | "#" => some (toString st.arguments.length)
  | "?" => some (toString st.status)
  | "$" => some (toString st.number)
  | "!" => st.lastBehind.map toString
  | "-" => some (String.ofList (optionLetters.filter st.options.contains))
  | "@" => if st.arguments.isEmpty then none else some (st.joint.intercalate st.arguments)
  | "*" => if st.arguments.isEmpty then none else some (st.joint.intercalate st.arguments)
  | _ =>
    if name ≠ "" ∧ name.toList.all Char.isDigit then
      match name.toNat?.getD 0 with
      | 0 => some st.name
      | n + 1 => st.arguments[n]?
    else valueIn? st.bindings name

/-- The environment of programs that a script starts. -/
def environment (st : State) : List (String × String) :=
  st.bindings.filterMap fun (name, v) =>
    if v.exported then v.value.map (name, ·) else none

end State

/-! ### Streams -/

/-- Writes a text to a stream, if that is possible. -/
def emit (stream : Nat) (text : String) : Act Bool := do
  let st ← get
  match st.task.write stream (Octets.toBytes text) st.system with
  | .ok system =>
    set { st with system }
    return true
  | .error _ => return false

/-- Writes a text to the output. A built-in tool that cannot write it does not end well. -/
def print (text : String) : Act Bool := emit 1 text

/-- Says something about a line. -/
def complainAt (line : Nat) (message : String) : Act Unit := do
  let st ← get
  let tool := match st.tool with
    | some tool => tool ++ ": "
    | none => ""
  let _ ← emit 2 (st.name ++ ": " ++ toString line ++ ": " ++ tool ++ message ++ "\n")

/-- Says something about the command. -/
def complain (message : String) : Act Unit := do complainAt (← get).line message

/-- Gives a status to the last command. -/
def setStatus (status : Nat) : Act Unit := modify fun st => { st with status }

/-- Stops the script because of an error. -/
def fault {α : Type} (message : String) : Act α := do
  complain message
  setStatus 2
  throw .fault

/-! ### Variables -/

/-- Forgets what the old value of a variable has led to: programs that have been found by `PATH`. -/
def forgetUse (name : String) : Act Unit := do
  if name = "PATH" then modify fun st => { st with known := [] }

/-- Gives a variable a value. A new value of `OPTIND` says where the reading of options begins. -/
def assign (name value : String) : Act Unit := do
  let st ← get
  let old := (st.bindings.lookup name).getD {}
  if old.fixed then fault (name ++ ": is read only")
  let exported := old.exported || st.hasOption 'a'
  let v := { old with value := some value, exported }
  set { st with bindings := withVariable name v st.bindings }
  forgetUse name
  if name = "OPTIND" then
    modify fun st => { st with optionIndex := max 1 (value.toNat?.getD 1), optionPlace := none }

/-- Takes a variable away. -/
def forget (name : String) : Act Unit := do
  let st ← get
  if ((st.bindings.lookup name).getD {}).fixed then fault (name ++ ": is read only")
  set { st with bindings := st.bindings.filter (·.1 ≠ name) }
  forgetUse name

/-- Changes what a variable is. -/
def mark (name : String) (change : Variable → Variable) : Act Unit := modify fun st =>
  let v := change ((st.bindings.lookup name).getD {})
  { st with bindings := withVariable name v st.bindings }

/-- Hides a variable as long as the innermost function runs. -/
def hide (name : String) : Act Unit := modify fun st =>
  match st.hidden with
  | [] => st
  | frame :: outer =>
    if (frame.lookup name).isSome then st
    else { st with hidden := ((name, st.bindings.lookup name) :: frame) :: outer }

/-- Hides the options as long as the innermost function runs. They are kept under a name that no
variable has. -/
def hideOptions : Act Unit := modify fun st =>
  match st.hidden with
  | [] => st
  | frame :: outer =>
    let kept : Variable := { value := some (String.ofList st.options) }
    { st with hidden := (("-", some kept) :: frame) :: outer }

/-- Begins to keep the variables that get hidden. -/
def enterScope : Act Unit := modify fun st => { st with hidden := [] :: st.hidden }

/-- Brings back the variables that have been hidden last. -/
def leaveScope : Act Unit := modify fun st =>
  match st.hidden with
  | [] => st
  | frame :: hidden =>
    let back (bindings : List (String × Variable)) (p : String × Option Variable) :=
      match p.2 with
      | some v => withVariable p.1 v bindings
      | none => bindings.filter (·.1 ≠ p.1)
    let options := match frame.lookup "-" with
      | some (some v) => (v.value.getD "").toList
      | _ => st.options
    let known := if (frame.lookup "PATH").isSome then [] else st.known
    let frame := frame.filter (·.1 ≠ "-")
    { st with bindings := frame.foldl back st.bindings, options, hidden, known }

/-- Does something and then something else, be it stopped or not. -/
def ensuring {α : Type} (act : Act α) (cleanup : Act Unit) : Act α := do
  try
    let a ← act
    cleanup
    return a
  catch stop =>
    cleanup
    throw stop

/-! ### Signals -/

/-- Gets a signal. -/
def receive (n : Nat) : Act Unit := do
  let st ← get
  if st.task.ignored.contains n then return
  match st.traps.lookup n with
  | some "" => return
  | some _ => modify fun st => { st with arrived := st.arrived ++ [n] }
  | none => if Signal.isFatal n then throw (.gone (.signal n))

/-- Gets the signals that are on their way to the script. -/
def receiveAll : Act Unit := do
  let st ← get
  let mine := st.system.signals.filter (·.1 == st.task.number)
  if mine.isEmpty then return
  let signals := st.system.signals.filter (·.1 != st.task.number)
  set { st with system := { st.system with signals } }
  for (_, n) in mine do
    receive n

end Shell

end ModuleBuild
