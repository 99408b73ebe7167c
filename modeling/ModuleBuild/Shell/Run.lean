import ModuleBuild.Shell.Call
import ModuleBuild.Shell.Redirection
import ModuleBuild.Shell.Tool

/-!
# Running scripts

A script is run command by command. A command changes the state of the script, and its status says
whether it has ended well.

## Main definitions

* `Shell.Mode` — how a command is run
* `Shell.evaluate` — runs a command
* `Shell.runScript` — runs the commands of a script
* `Shell.runMain` — runs a script to its end

## Implementation notes

Commands are inside one another, and a function can call itself, so `depth` bounds how deep a
command can be. What a command does is told by functions of its parts, which are run by a `Host`.
-/

namespace ModuleBuild

namespace Shell

/-- How a command is run. -/
structure Mode where
  /-- Whether its status is looked at, so that it may fail. -/
  tested : Bool := false
  /-- Whether nothing is left to do behind it. -/
  isLast : Bool := false

/-- Runs commands. -/
abbrev Evaluate := Mode → Command → Act Unit

/-- What runs commands and programs. -/
structure Host where
  /-- Runs commands. -/
  evaluate : Evaluate
  /-- Runs programs. -/
  execute : Execute

/-! ### Texts of commands -/

/-- Shows the lines of a script that have been read, if an option asks for it. -/
def showLines (source : Source) (step : Step) : Act Unit := do
  if source.isShown && (← get).hasOption 'v' then
    let _ ← emit 2 (source.linesOf step)

/-- Runs the commands of a script, as far as they have not been run; `fuel` bounds the number of
steps. -/
def runFrom (evaluate : Evaluate) (mode : Mode) : Nat → Bool → Source → Act Unit
  | 0, _, _ => return
  | fuel + 1, isFirst, source => do
    let source := { source with aliases := (← get).aliases }
    let step := source.step
    showLines source step
    match step with
    | .finished => if isFirst then setStatus 0
    | .flawed flaw =>
      complainAt flaw.line flaw.message
      setStatus 2
      throw .fault
    | .commands (.sequence []) behind => runFrom evaluate mode fuel isFirst behind
    | .commands command behind =>
      modify fun st => { st with lineBehind := behind.line }
      evaluate { mode with isLast := mode.isLast && behind.isFinished } command
      runFrom evaluate mode fuel false behind

/-- How many steps a script can take more than it has characters, as names in it stand for texts. -/
def stepLimit : Nat := 100000

/-- Runs the commands of a script, which may be a part of another one. -/
def runScript (evaluate : Evaluate) (mode : Mode) (source : Source) : Act Unit := do
  let lineBehind := (← get).lineBehind
  ensuring (runFrom evaluate mode (source.limit + stepLimit) true source)
    (modify fun st => { st with lineBehind })

/-- Runs the commands in a text. -/
def Host.runText (host : Host) (text : String) : Act Unit :=
  runScript host.evaluate {} (Source.ofText text)

/-- A command that is run on its own. -/
def Host.child (host : Host) (tested : Bool) (command : Command) : Child :=
  concluded host.runText (host.evaluate { tested, isLast := true } command)

/-- What a command writes to its output. -/
def Host.outputOf (host : Host) (command : Command) : Act String := do
  match command with
  | .sequence [] =>
    modify fun st => { st with outputStatus := 0 }
    return ""
  | _ =>
    let st ← get
    let (reading, writing, system) := st.system.addPipe []
    set { st with system }
    let ending ← forkedWith (st.task.withStream 1 writing).streams (host.child false command)
    tellEnding ending
    let st ← get
    let bytes := st.system.contentOf reading
    set { st with outputStatus := ending.status }
    return Octets.ofBytes bytes

/-! ### Signals -/

/-- Does what is to be done at the signals that have arrived, in the order of their numbers. -/
def Host.attend (host : Host) : Act Unit := do
  let st ← get
  if st.arrived.isEmpty then return
  let before := st.statusBefore
  let status := before.getD st.status
  set { st with arrived := [], statusBefore := some status }
  ensuring (do
    for n in (List.range Signal.count).filter st.arrived.contains do
      match (← get).traps.lookup n with
      | some action =>
        host.runText action
        setStatus status
      | none => pure ())
    (modify fun st => { st with statusBefore := before })

/-! ### Tools that run commands -/

/-- Runs its arguments as one text of commands. -/
def Host.runArguments (host : Host) (mode : Mode) (arguments : List String) : Act Nat := do
  runScript host.evaluate { tested := mode.tested } (Source.ofText (" ".intercalate arguments))
  return (← get).status

/-- The path of a script that is to be run as a part of another one. -/
def sourcePath (name : String) : Act String := do
  if isPath name then return name
  let st ← get
  let isHere (path : String) : Bool :=
    st.system.files.isFile st.task.cwd ⟨path⟩
  match (candidates st.directories name).find? isHere with
  | some path => return path
  | none => fault (name ++ ": not found")

/-- Runs a script as a part of another one. -/
def Host.runSource (host : Host) (arguments : List String) : Act Nat := do
  match ← Tool.withoutOptions arguments with
  | [] => return 0
  | name :: _ =>
    let path ← sourcePath name
    let st ← get
    match st.task.openPath st.system path .read with
    | .error f => fault (openingReason .read path f)
    | .ok (index, system) =>
      let bytes := match system.take index none with
        | .ok (bytes, _) => bytes
        | .error _ => []
      let tool := st.tool
      modify fun st => { st with tool := some path }
      ensuring (do
        try
          runScript host.evaluate {} { Source.ofText (Octets.ofBytes bytes) with isShown := true }
        catch
          | .returns => pure ()
          | stop => throw stop)
        (modify fun st => { st with tool })
      return (← get).status

/-- Becomes a program. -/
def Host.replace (host : Host) (arguments : List String) : Act Nat := do
  match arguments with
  | [] => return 0
  | name :: rest =>
    let paths := candidates (← get).directories name
    becomeOrEnd host.execute paths name rest
    return 0

/-- Runs a built-in tool. -/
def Host.runTool (host : Host) (mode : Mode) (name : String) (arguments : List String) :
    Act Nat := do
  match name with
  | "eval" => host.runArguments mode arguments
  | "." => host.runSource arguments
  | "exec" => host.replace arguments
  | _ =>
    match Tool.byName? name with
    | some tool => tool arguments
    | none => return 127

/-! ### Simple commands -/

/-- Calls a built-in tool. An error ends the script if the tool is a special one. -/
def Host.callTool (host : Host) (mode : Mode) (call : Call) : Act Unit := do
  let outer := (← get).tool
  modify fun st => { st with tool := some call.name }
  let act : Act Unit := do setStatus (← host.runTool mode call.name call.arguments)
  ensuring (do
    try act
    catch
      | .fault => if call.isSpecial then throw .fault
      | stop => throw stop)
    (modify fun st => { st with tool := outer })

/-- How many functions can call one another. -/
def callLimit : Nat := 1000

/-- Calls a function. -/
def Host.callFunction (host : Host) (mode : Mode) (body : Command) (arguments : List String) :
    Act Unit := do
  let outer ← get
  if callLimit ≤ outer.calls then
    fault s!"Maximum function recursion depth ({callLimit}) reached"
  set { outer with
    arguments, calls := outer.calls + 1, loops := 0, optionIndex := 1, optionPlace := none }
  ensuring (do
    try host.evaluate { tested := mode.tested } body
    catch
      | .returns => pure ()
      | stop => throw stop)
    (modify fun st =>
      { st with
        arguments := outer.arguments
        calls := outer.calls
        loops := outer.loops
        optionIndex := outer.optionIndex
        optionPlace := outer.optionPlace })

/-- Sets variables in front of a call, and gives them as they are shown. They are hidden again
behind a call that is not special. -/
def setBefore (outputOf : OutputOf) (isLocal exported : Bool) :
    List (String × Word) → Act (List String)
  | [] => return []
  | (name, value) :: rest => do
    let text ← expandValue outputOf value
    if isLocal then hide name
    assign name text
    if exported then mark name fun v => { v with exported := true }
    return (name ++ "=" ++ text) :: (← setBefore outputOf isLocal exported rest)

/-- Shows a command on the error output, if an option asks for it. -/
def trace (errors : Option Nat) (texts : List String) : Act Unit := do
  let st ← get
  match st.hasOption 'x', errors with
  | true, some index =>
    let line := (st.value? "PS4").getD "" ++ " ".intercalate texts ++ "\n"
    match st.system.write index (Octets.toBytes line) with
    | .ok system => set { st with system }
    | .error _ => pure ()
  | _, _ => pure ()

/-- Runs what a simple command calls. -/
def Host.perform (host : Host) (mode : Mode) (call : Call) : Act Unit := do
  match call.callee with
  | .nothing => setStatus (← get).outputStatus
  | .tool => host.callTool mode call
  | .function body => host.callFunction mode body call.arguments
  | .program =>
    startProgram host.execute mode.isLast call.directories call.name call.arguments

/-- Runs a simple command. -/
def Host.runSimple (host : Host) (mode : Mode) (line : Nat) (assignments : List (String × Word))
    (words : List Word) (redirects : List Redirect) : Act Unit := do
  modify fun st => { st with line, outputStatus := 0 }
  let texts ← expandCall host.outputOf [] words
  let st ← get
  let call := callOf st texts
  let isLocal := !call.isSpecial && !(call.callee matches .nothing)
  let isExec := call.callee matches .tool && call.name == "exec"
  let errors := st.task.stream? 2
  let body : Act Unit := do
    let exported := isLocal || (isExec && !call.arguments.isEmpty)
    let shown ← setBefore host.outputOf isLocal exported assignments
    trace errors (shown ++ texts)
    host.perform mode call
  let refused : Act Unit := if call.isSpecial then throw .fault else pure ()
  let duration := if isExec then .script else .command
  let act := redirected host.outputOf duration redirects refused body
  if isLocal then
    enterScope
    ensuring act leaveScope
  else act

/-! ### Commands that hold others -/

/-- Runs commands one after the other. -/
def Host.runSequence (host : Host) (mode : Mode) : List Command → Act Unit
  | [] => setStatus 0
  | [command] => host.evaluate mode command
  | command :: rest => do
    host.evaluate { tested := mode.tested } command
    host.runSequence mode rest

/-- Runs commands each of which is run only if the one before it has ended well, or has not. -/
def Host.runJoined (host : Host) (mode : Mode) : List (Bool × Command) → Act Unit
  | [] => return
  | (wantsWell, command) :: rest => do
    if ((← get).status == 0) == wantsWell then
      host.evaluate (if rest.isEmpty then mode else { tested := true }) command
    host.runJoined mode rest

/-- Remembers the program that a command of a pipeline runs. -/
def rememberCommand (command : Command) : Act Unit := do
  let st ← get
  match command with
  | .simple _ _ (w :: _) _ =>
    match (plainText? w).filter isName with
    | some name =>
      match (callOf st [name]).callee, findProgram st st.directories name with
      | .program, .ok paths => remember st.directories name (paths.headD "")
      | _, _ => return
    | none => return
  | _ => return

/-- Runs commands each of which reads what the one before it writes, and gives how they end. -/
def Host.runPipeline (host : Host) (mode : Mode) (input : Option Nat) :
    List Command → Act (List Ending)
  | [] => return []
  | command :: rest => do
    rememberCommand command
    let st ← get
    let (reading, writing, system) := st.system.addPipe []
    set { st with system }
    let task := match input with
      | some index => st.task.withStream 0 index
      | none => st.task
    let task := if rest.isEmpty then task else task.withStream 1 writing
    let ending ← forkedWith task.streams (host.child mode.tested command)
    return ending :: (← host.runPipeline mode (some reading) rest)

/-- How a round of a loop has ended. -/
inductive Round where
  /-- It has come to its end. -/
  | ended
  /-- The next round is to begin. -/
  | left
  /-- The loop is to be left. -/
  | last
  deriving DecidableEq

/-- Does something in a loop. -/
def roundOf (act : Act Unit) : Act Round := do
  try
    act
    return .ended
  catch
    | .breaks n => if n ≤ 1 then return .last else throw (.breaks (n - 1))
    | .continues n => if n ≤ 1 then return .left else throw (.continues (n - 1))
    | stop => throw stop

/-- Does something as a loop. -/
def inLoop (act : Act Unit) : Act Unit := do
  modify fun st => { st with loops := st.loops + 1 }
  ensuring act (modify fun st => { st with loops := st.loops - 1 })

/-- How often a command is repeated at most. A script that goes on for longer writes for a reader
that is gone. -/
def roundLimit : Nat := 100000

/-- Repeats something as long as a condition ends well, or until it does. The status is that of the
last round. -/
def repeatWhile (untilWell : Bool) (condition body : Act Unit) : Nat → Nat → Act Unit
  | 0, _ => throw (.gone (.signal 13))
  | rounds + 1, status => do
    match ← roundOf condition with
    | .last => setStatus status
    | .left => repeatWhile untilWell condition body rounds status
    | .ended =>
      if ((← get).status == 0) == untilWell then setStatus status
      else if (← roundOf body) = .last then return
      else repeatWhile untilWell condition body rounds (← get).status

/-- Does something for each of some texts as the value of a variable. -/
def forTexts (name : String) (body : Act Unit) : List String → Act Unit
  | [] => return
  | text :: rest => do
    assign name text
    if (← roundOf body) ≠ .last then forTexts name body rest

/-- Whether one of some patterns describes a text. They are expanded up to the first one that
does. -/
def describes (outputOf : OutputOf) (text : List Char) : List Word → Act Bool
  | [] => return false
  | w :: rest => do
    if (← expandPattern outputOf w).accepts text then return true
    describes outputOf text rest

/-- Runs the command of the first patterns that describe a text. -/
def Host.runArms (host : Host) (mode : Mode) (text : List Char) :
    List (List Word × Command) → Act Unit
  | [] => setStatus 0
  | (patterns, command) :: rest => do
    if ← describes host.outputOf text patterns then host.evaluate mode command
    else host.runArms mode text rest

/-- Runs a command with its streams redirected. -/
def Host.runRedirected (host : Host) (mode : Mode) (duration : Duration) (line : Nat)
    (redirects : List Redirect) (command : Command) : Act Unit := do
  modify fun st => { st with line }
  redirected host.outputOf duration redirects (pure ()) (host.evaluate mode command)

/-! ### All commands -/

/-- Runs a command by what it is. -/
def Host.run (host : Host) (mode : Mode) (command : Command) : Act Unit := do
  let inner : Mode := { tested := mode.tested }
  match command with
  | .simple line assignments words redirects =>
    host.runSimple mode line assignments words redirects
  | .define name body =>
    modify fun st =>
      { st with functions := (name, body) :: st.functions.filter (·.1 ≠ name), status := 0 }
  | .sequence commands => host.runSequence mode commands
  | .joined first rest =>
    host.evaluate { tested := true } first
    host.runJoined mode rest
  | .negate command =>
    host.evaluate { tested := true } command
    setStatus (if (← get).status = 0 then 1 else 0)
  | .pipeline commands =>
    let endings ← host.runPipeline mode none commands
    for ending in endings do
      tellEnding ending
    setStatus ((endings.getLast?.map Ending.status).getD 0)
  | .behind line command redirects =>
    sendBehind (concluded host.runText
      (host.runRedirected { isLast := true } .copy line redirects command))
    setStatus 0
  | .apart line command redirects =>
    let act := host.runRedirected { mode with isLast := true } .copy line redirects command
    if mode.isLast && !(← get).hasTraps then act else waitFor (concluded host.runText act)
  | .choose condition yes no =>
    host.evaluate { tested := true } condition
    if (← get).status = 0 then host.evaluate mode yes else host.evaluate mode no
  | .select line subject arms =>
    modify fun st => { st with line }
    let text ← expandText host.outputOf subject
    host.runArms mode text.toList arms
  | .forEach line name items body =>
    modify fun st => { st with line }
    let texts ← match items with
      | some words => expandAll host.outputOf words
      | none => pure (← get).arguments
    setStatus 0
    inLoop (forTexts name (host.evaluate inner body) texts)
  | .repeated untilWell condition body =>
    inLoop (repeatWhile untilWell (host.evaluate { tested := true } condition)
      (host.evaluate inner body) roundLimit 0)
  | .redirected line command redirects =>
    host.runRedirected inner .command line redirects command

/-- Whether a script that is to end at the first failure ends at that of a command. -/
def isChecked : Command → Bool
  | .simple .. => true
  | .apart .. => true
  | .behind .. => true
  | .pipeline .. => true
  | _ => false

/-- Runs a command, and ends the script if it fails and an option asks for that. -/
def Host.runChecked (host : Host) (mode : Mode) (command : Command) : Act Unit := do
  let check (otherwise : Act Unit) : Act Unit := do
    let st ← get
    if st.hasOption 'e' && !mode.tested && isChecked command && st.status ≠ 0 then throw .exit
    else otherwise
  host.attend
  try host.run mode command
  catch
    | .returns => check (throw .returns)
    | stop => throw stop
  host.attend
  check (pure ())

/-- Runs a command that is not deeper than `depth`. -/
def evaluate (execute : Execute) : Nat → Evaluate
  | 0, _, _ => throw (.gone (.signal 11))
  | depth + 1, mode, command => do
    if (← get).hasOption 'n' then return
    Host.runChecked { evaluate := evaluate execute depth, execute } mode command

/-- How deep commands can be inside one another. -/
def evaluationLimit : Nat := 20000

/-- Runs a script to its end. Where `isLast` says so, it ends with its last command. -/
def runMain (execute : Execute) (isLast : Bool) (source : Source) : Child :=
  let host : Host := { evaluate := evaluate execute evaluationLimit, execute }
  concluded host.runText (runScript host.evaluate { isLast } source)

end Shell

end ModuleBuild
