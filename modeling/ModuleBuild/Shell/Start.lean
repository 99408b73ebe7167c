import ModuleBuild.Shell.Run

/-!
# Starting a shell

A shell runs a script that is given as text, as a file, or as its input. Options in front of it are
those of the script.

## Main definitions

* `Shell.initial` — the state in which a script begins
* `Shell.begin` — finds the script
* `Shell.start` — runs a shell
-/

namespace ModuleBuild

namespace Shell

/-- The variables that a script finds in its environment. -/
def fromEnvironment (environment : List (String × String)) : List (String × Variable) :=
  environment.foldl (fun vs (name, value) =>
    if isName name then withVariable name { value := some value, exported := true } vs else vs) []

/-- The variables that a script has if they are not in its environment. -/
def standardVariables : List (String × String) :=
  [("PATH", Tool.standardDirectories), ("PS1", "# "), ("PS2", "> "), ("PS4", "+ ")]

/-- The separators of values. -/
def standardSeparators : String := " \t\n"

/-- The variables with which a script begins. -/
def initialVariables (task : Task) (place : String) : List (String × Variable) :=
  let own (value : String) : Variable := { value := some value }
  let known := fromEnvironment task.environment
  let missing := standardVariables.filter fun p => (known.lookup p.1).isNone
  let all := known ++ missing.map fun p => (p.1, own p.2)
  let all := withVariable "OPTIND" (own "1") all
  let all := withVariable "PPID" (own (toString task.parent)) all
  let all := withVariable "PWD" { value := some place, exported := true } all
  withVariable "IFS" (own standardSeparators) all

/-- The way to the working directory: that in the environment, if it leads there. -/
def initialPlace (task : Task) (system : System) : String :=
  let here := Tool.locationText task.cwd
  match task.environment.lookup "PWD" with
  | some way =>
    let leadsHere := match system.files.locate [] ⟨way⟩ with
      | .ok l => way.startsWith "/" && l == task.cwd
      | .error _ => false
    if leadsHere then way else here
  | none => here

/-- The state in which a script begins. -/
def initial (task : Task) (system : System) : State :=
  let place := initialPlace task system
  { system, task, place
    name := task.name
    number := task.number
    bindings := initialVariables task place }

/-! ### The script -/

/-- Writes the options, all of which count as set before a script begins. -/
def tellOptions (on : Bool) : Act Unit := do
  let all := Tool.optionList on { (← get) with options := optionNames.map Prod.snd }
  let _ ← print all

/-- Sets the options at the front of arguments, and gives whether a script is given as text, and the
arguments behind them; `fuel` bounds how many arguments hold options. -/
def beginOptions : Nat → Bool → List String → Act (Bool × List String)
  | 0, asText, arguments => return (asText, arguments)
  | fuel + 1, asText, arguments => do
    let read (on : Bool) (cs : List Char) (rest : List String) : Act (Bool × List String) := do
      let asks := cs.contains 'o' && rest.isEmpty
      if asks then tellOptions on
      let isOwn (c : Char) : Bool := c == 'c' || c == 'l' || (asks && c == 'o')
      let rest ← Tool.setLetters on (cs.filter (!isOwn ·)) rest
      beginOptions fuel (asText || cs.contains 'c') rest
    match arguments with
    | [] => return (asText, [])
    | "--" :: rest => return (asText, rest)
    | "-" :: rest => return (asText, rest)
    | first :: rest =>
      match first.toList with
      | '-' :: cs => read true cs rest
      | '+' :: cs => read false cs rest
      | _ => return (asText, arguments)

/-- All that can be read from a stream. -/
def readAll (stream : Nat) : Act String := do
  let st ← get
  match (st.task.stream? stream).map fun index => st.system.take index none with
  | some (.ok (bytes, system)) =>
    set { st with system }
    return Octets.ofBytes bytes
  | _ => return ""

/-- The text of a script in a file. -/
def scriptIn (path : String) : Act String := do
  let st ← get
  match st.task.openPath st.system path .read with
  | .error f => fault (openingReason .read path f)
  | .ok (index, system) =>
    match system.take index none with
    | .ok (bytes, system) =>
      set { st with system }
      return Octets.ofBytes bytes
    | .error _ => return ""

/-- The script that some arguments ask for, and whether the shell ends with its last command. -/
def begin (arguments : List String) : Act (Source × Bool) := do
  let (asText, arguments) ← beginOptions (arguments.length + 1) false arguments
  let fromInput := (← get).hasOption 's'
  let named (name : String) (arguments : List String) : Act Unit :=
    modify fun st => { st with name, arguments }
  let shown (text : String) : Source × Bool := ({ Source.ofText text with isShown := true }, false)
  match asText, arguments with
  | true, [] => fault "-c requires an argument"
  | true, text :: rest =>
    match rest with
    | name :: rest => named name rest
    | [] => pure ()
    return (Source.ofText text, !fromInput)
  | false, [] =>
    Tool.setOption true 's'
    return shown (← readAll 0)
  | false, path :: rest =>
    if fromInput then
      modify fun st => { st with arguments }
      return shown (← readAll 0)
    let text ← scriptIn path
    named path rest
    return shown text

/-- Runs a shell. -/
def start (execute : Execute) (task : Task) (system : System) : Ending × System :=
  match (begin task.arguments).run (initial task system) with
  | (.error _, st) => (.code st.status, st.system)
  | (.ok (source, isLast), st) =>
    let (ending, st) := runMain execute isLast source st
    (ending, st.system)

end Shell

end ModuleBuild
