import ModuleBuild.Shell.Tool.Jobs

/-!
# Built-in tools for signals

`kill` sends signals to programs, and `trap` says what is to be done when one arrives.

## Main definitions

* `Shell.Tool.kill`, `Shell.Tool.trap` — the tools
-/

namespace ModuleBuild

namespace Shell

namespace Tool

/-! ### Sending -/

/-- Whether a program with a number is known to run. -/
def isRunning (st : State) (number : Nat) : Bool :=
  number == st.number || number == st.task.number || number == st.task.parent ||
    st.waiting.any (·.1 == number)

/-- Sends a signal to a program, and says whether there is such a program. -/
def send (signal number : Nat) : Act Bool := do
  let st ← get
  if !isRunning st number then return false
  if signal = 0 then return true
  if number = st.task.number then receive signal
  else
    let signals := st.system.signals ++ [(number, signal)]
    MonadStateOf.set { st with system := { st.system with signals } }
  return true

/-- How `kill` is used. -/
def killUsage : String :=
  "Usage: kill [-s sigspec | -signum | -sigspec] [pid | job]... or\nkill -l [exitstatus]"

/-- Sends a signal to programs. A command that nobody waits for makes no group of programs. -/
def sendAll (signal : Nat) (targets : List String) : Act Nat := do
  let mut status := 0
  for target in targets do
    let number? : Option Nat ←
      if target.startsWith "%" then
        let _ ← jobNamed (some target)
        pure none
      else if target.startsWith "-" then
        let _ ← wholeNumber (target.drop 1).toString
        pure none
      else pure (some (← wholeNumber target))
    let isSent ← match number? with
      | some number => send signal number
      | none => pure false
    if !isSent then
      complain "No such process\n"
      status := 1
  return status

/-- Writes the names of signals, or that of the signal in a status. -/
def nameSignals : List String → Act Nat
  | [] => do
    write 0 ("0\n" ++ "".intercalate ((List.range Signal.count).tail.map (Signal.name · ++ "\n")))
  | text :: _ => do
    let n ← wholeNumber text
    let signal := if 128 < n then n - 128 else n
    if signal = 0 || Signal.count ≤ signal then
      fault ("invalid signal number or exit status: " ++ text)
    else write 0 (Signal.name signal ++ "\n")

/-- Sends signals to programs, or names them. -/
def kill (arguments : List String) : Act Nat := do
  match arguments with
  | [] => fault killUsage
  | first :: rest =>
    let named? := if first.startsWith "-" then Signal.ofName? 1 (first.drop 1).toString else none
    match named? with
    | some signal => if rest.isEmpty then fault killUsage else sendAll signal rest
    | none =>
      let (options, targets) ←
        if first.startsWith "-" then optionsOf "ls:" arguments else pure ([], arguments)
      let isList := options.any (·.1 == 'l')
      let names := (options.filter (·.1 == 's')).map Prod.snd
      match names.getLast? with
      | none =>
        if isList then nameSignals targets
        else if targets.isEmpty then fault killUsage
        else sendAll 15 targets
      | some name =>
        match Signal.ofName? 1 name with
        | none => fault ("invalid signal number or name: " ++ name)
        | some signal =>
          if isList || targets.isEmpty then fault killUsage else sendAll signal targets

/-! ### Receiving -/

/-- Arrangements with one more, or without the one for a signal. -/
def withTrap (signal : Nat) (action : Option String) (traps : List (Nat × String)) :
    List (Nat × String) :=
  let others := traps.filter (·.1 ≠ signal)
  match action with
  | some action => (signal, action) :: others
  | none => others

/-- Makes an arrangement for signals, up to the first one that there is not. -/
def arrange (action : Option String) : List String → Act Nat
  | [] => return 0
  | name :: rest => do
    match Signal.ofName? 0 name with
    | none =>
      let _ ← emit 2 ("trap: " ++ name ++ ": bad trap\n")
      return 1
    | some signal =>
      modify fun st => { st with traps := withTrap signal action st.traps }
      arrange action rest

/-- Makes arrangements for signals, or writes those that have been made. -/
def trap (arguments : List String) : Act Nat := do
  match ← withoutOptions arguments with
  | [] =>
    let traps := (← get).traps.mergeSort fun a b => a.1 ≤ b.1
    let line (p : Nat × String) : String :=
      "trap -- " ++ quoted p.2 ++ " " ++ Signal.name p.1 ++ "\n"
    write 0 ("".intercalate (traps.map line))
  | first :: rest =>
    let isNumber := (decimal? first).isSome && (Signal.ofName? 0 first).isSome
    if rest.isEmpty || isNumber then arrange none (first :: rest)
    else arrange (if first = "-" then none else some first) rest

end Tool

end Shell

end ModuleBuild
