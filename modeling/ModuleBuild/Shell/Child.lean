import ModuleBuild.Shell.State

/-!
# Commands that run on their own

Some commands of a script are run by a copy of it: what they change shows in the files and on the
streams, and not in the script itself. A copy that nobody waits for is put off until the script
waits, makes another copy, or ends.

## Main definitions

* `Shell.State.child` — the copy of a script
* `Shell.runWaiting` — runs the commands that have been put off
* `Shell.forked`, `Shell.sendBehind` — runs commands on their own now, or puts them off
* `Shell.waitForAll`, `Shell.waitForNumber` — waits for commands that have been put off
* `Shell.concluded` — runs something to its end
-/

namespace ModuleBuild

namespace Shell

/-- What runs on its own. -/
abbrev Child := State → Ending × State

/-- A copy of a script with a number of its own. It keeps only those arrangements by which signals
do nothing. -/
def State.child (st : State) (number : Nat) : State :=
  { st with
    task := { st.task with number, parent := st.task.number }
    traps := st.traps.filter fun p => p.2.isEmpty
    arrived := []
    sideJobs := []
    waiting := [] }

/-- Whether something is to be done at a signal or at the end. -/
def State.hasTraps (st : State) : Bool := st.traps.any fun p => !p.2.isEmpty

/-- Changes what is known about a command that nobody waits for. -/
def changeJob (number : Nat) (change : SideJob → SideJob) : Act Unit := modify fun st =>
  { st with sideJobs := st.sideJobs.map fun j => if j.number = number then change j else j }

/-- Runs the commands that have been put off. -/
def runWaiting : Act Unit := do
  let st ← get
  for (number, job) in st.waiting do
    let st ← get
    let (ending, system) := job st.system
    set { st with system, waiting := st.waiting.drop 1 }
    changeJob number fun j => { j with ending := some ending }

/-- Says that a command has been ended by a signal. -/
def tellEnding (e : Ending) : Act Unit := do
  match e with
  | .code _ => return
  | .signal n =>
    if Signal.isWorthAWord n then
      let _ ← emit 2 (Signal.describe n ++ "\n")

/-- Runs something on its own, with streams of its own. -/
def forkedWith (streams : List (Nat × Nat)) (child : Child) : Act Ending := do
  runWaiting
  let st ← get
  let (number, system) := st.system.withNumber
  let inner := { st with system }.child number
  let (ending, inner) := child { inner with task := { inner.task with streams } }
  set { st with system := inner.system }
  receiveAll
  if (st.traps.lookup 17).isSome then receive 17
  return ending

/-- Runs something on its own. -/
def forked (child : Child) : Act Ending := do forkedWith (← get).task.streams child

/-- Runs something on its own, waits for its end, and has its status. -/
def waitFor (child : Child) : Act Unit := do
  let ending ← forked child
  tellEnding ending
  setStatus ending.status

/-- A state with one more command that nobody waits for. It takes the first place that is free, or
whose command has ended and has been waited for. -/
def withSideJob (number : Nat) (st : State) : State :=
  let isFree (place : Nat) : Bool :=
    st.sideJobs.all fun j => j.place != place || (j.isSettled && j.ending.isSome)
  let places := (List.range (st.sideJobs.length + 1)).map (· + 1)
  let place := (places.find? isFree).getD places.length
  { st with sideJobs := { place, number } :: st.sideJobs.filter (·.place ≠ place) }

/-- Puts something off. It reads nothing, and is not to be interrupted. A signal that is sent before
it is run ends it. -/
def sendBehind (child : Child) : Act Unit := do
  let st ← get
  let (number, system) := st.system.withNumber
  let (input, system) :=
    system.add { medium := .device .null, readable := true, writable := false }
  let inner := st.child number
  let task := { inner.task.withStream 0 input with ignored := [2, 3] ++ inner.task.ignored }
  let job (system : System) : Ending × System :=
    match receiveAll.run { inner with system, task } with
    | (.error (.gone ending), inner) => (ending, inner.system)
    | (_, inner) =>
      let (ending, inner) := child inner
      (ending, inner.system)
  let waiting := st.waiting ++ [(number, job)]
  set (withSideJob number { st with system, waiting, lastBehind := some number })

/-- Waits for all commands that have been put off. -/
def waitForAll : Act Unit := do
  runWaiting
  receiveAll
  modify fun st => { st with sideJobs := st.sideJobs.map fun j => { j with isSettled := true } }

/-- Waits for a command that has been put off, and gives its status. -/
def waitForNumber (number : Nat) : Act Nat := do
  let isNews := (← get).waiting.any (·.1 == number)
  runWaiting
  receiveAll
  changeJob number fun j => { j with isSettled := true }
  match ((← get).sideJobs.find? (·.number == number)).bind SideJob.ending with
  | some ending =>
    if isNews then tellEnding ending
    return ending.status
  | none => return 127

/-! ### The end -/

/-- What is left of a script that has come to its end: something that is to be done at the end, with
the status of the script. -/
def lastWords (runText : String → Act Unit) : Act Unit := do
  let st ← get
  match st.traps.lookup 0 with
  | none => return
  | some action =>
    set { st with
      traps := st.traps.filter (·.1 ≠ 0), statusBefore := some st.status, loops := 0, tool := none }
    runText action
    setStatus st.status

/-- How something ends, and in which state. -/
def endingOf (act : Act Unit) (st : State) : Ending × State :=
  match act.run st with
  | (.error (.gone e), st) => (e, st)
  | (_, st) => (.code (st.status % 256), st)

/-- Runs something to its end, with what is to be done there and what has been put off. -/
def concluded (runText : String → Act Unit) (act : Act Unit) : Child := fun st =>
  let last (status : Nat) : Act Unit := do
    try
      lastWords runText
    catch
      | .exit => return
      | .fault => return
      | .gone e => throw (.gone e)
      | _ => setStatus status
  let (ending, st) := endingOf (do
    try
      act
    catch
      | .gone e => throw (.gone e)
      | _ => pure ()
    last (← get).status) st
  let (_, st) := runWaiting.run st
  (ending, st)

end Shell

end ModuleBuild
