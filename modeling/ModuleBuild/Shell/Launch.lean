import ModuleBuild.Shell.Child

/-!
# Starting programs

A program is named by a path, or by a name that is looked for in the directories of `PATH`. What is
no program, but looks like a text, is a script for the shell.

## Main definitions

* `Shell.candidates` — the paths that a name can stand for
* `Shell.findProgram` — those of them from the first program on
* `Shell.execute?` — runs the first of some paths that can be run
* `Shell.startProgram` — starts a program and waits for its end
-/

namespace ModuleBuild

namespace Shell

/-! ### Looking for programs -/

/-- The directories of a list between colons. -/
def directoriesOf (list : String) : List String := (list.toList.splitOn ':').map String.ofList

/-- A name in a directory, the empty text being the working directory. -/
def inDirectory (name directory : String) : String :=
  if directory.isEmpty then name else directory ++ "/" ++ name

/-- Whether a name is a path. -/
def isPath (name : String) : Bool := name.toList.contains '/'

/-- The directories in which programs are looked for. -/
def State.directories (st : State) : List String := directoriesOf ((st.value? "PATH").getD "")

/-- The paths that the name of a program can stand for, in some directories. -/
def candidates (directories : List String) (name : String) : List String :=
  if isPath name then [name] else directories.map (inDirectory name)

/-- The fault that is told if a path can be passed over because of one fault and another one has
been found before. -/
def worse (before : FileFault) (fault : FileFault) : FileFault :=
  if fault = .notFound ∨ fault = .notDirectory then before else fault

/-- Paths from the first one on that leads to something that may be run, or why there is none. -/
def runnableFrom (st : State) : FileFault → List String → Except FileFault (List String)
  | last, [] => .error last
  | last, path :: rest =>
    match st.system.files.entry st.task.cwd ⟨path⟩ with
    | .ok (_, .file _ true) => .ok (path :: rest)
    | .ok _ => runnableFrom st .notPermitted rest
    | .error fault => runnableFrom st (worse last fault) rest

/-- The paths that the name of a program stands for, or why there is none. -/
def findProgram (st : State) (directories : List String) (name : String) :
    Except FileFault (List String) :=
  if isPath name then .ok [name] else runnableFrom st .notFound (candidates directories name)

/-! ### Running programs -/

/-- Whether a file that is no program is no script either: it has the mark of a program, or a zero
in its first line. -/
def isBinary (content : Bytes) : Bool :=
  content.take 4 == [0x7f, 0x45, 0x4c, 0x46] || (content.takeWhile (· ≠ 10)).contains 0

/-- Where the shell is. -/
def shellPath : String := "/bin/sh"

/-- Runs the program or the script at a path. -/
def executePath (execute : Execute) (st : State) (task : Task) (path : String) :
    Except FileFault (Ending × System) :=
  match execute ⟨path⟩ task st.system with
  | .error .notProgram =>
    match st.system.files.read st.task.cwd ⟨path⟩ with
    | .ok content =>
      if isBinary content then .error .notProgram
      else
        execute ⟨shellPath⟩
          { task with name := shellPath, arguments := path :: task.arguments } st.system
    | .error fault => .error fault
  | result => result

/-- Runs the first of some paths that can be run. -/
def execute? (execute : Execute) (st : State) (task : Task) :
    FileFault → List String → Except FileFault (Ending × System)
  | last, [] => .error last
  | last, path :: rest =>
    match executePath execute st task path with
    | .ok result => .ok result
    | .error fault => execute? execute st task (worse last fault) rest

/-- What a program is given. -/
def State.taskFor (st : State) (name : String) (arguments : List String) : Task :=
  { st.task with
    name, arguments, environment := st.environment
    ignored := (st.traps.filter (·.2.isEmpty)).map Prod.fst ++ st.task.ignored }

/-- The status of a script that could not become a program. -/
def statusOf (fault : FileFault) : Nat :=
  if [.notFound, .notDirectory, .nameTooLong, .tooManyLinks].contains fault then 127 else 126

/-- Why a program is not found, in the words of a shell. -/
def findingReason (name : String) (fault : FileFault) : String :=
  name ++ ": " ++
    if fault = .notFound ∨ fault = .notDirectory then "not found" else fault.reason

/-- Becomes the first of some programs that can be run, or gives the fault. -/
def become (execute : Execute) (paths : List String) (name : String) (arguments : List String) :
    Act FileFault := do
  let st ← get
  match execute? execute st (st.taskFor name arguments) .notFound paths with
  | .ok (ending, system) =>
    set { st with system }
    throw (.gone ending)
  | .error fault => return fault

/-- Becomes a program, or says why that cannot be and ends. -/
def becomeOrEnd (execute : Execute) (paths : List String) (name : String)
    (arguments : List String) : Act Unit := do
  let fault ← become execute paths name arguments
  complain (findingReason name fault)
  setStatus (statusOf fault)
  throw .exit

/-- Keeps the path at which a program has been found, unless it has been looked for in directories
of its own. -/
def remember (directories : List String) (name path : String) : Act Unit := modify fun st =>
  if isPath name || directories ≠ st.directories || (st.known.lookup name).isSome then st
  else { st with known := st.known ++ [(name, path)] }

/-- Starts a program and waits for its end. A script with nothing left to do becomes the program. -/
def startProgram (execute : Execute) (isLast : Bool) (directories : List String) (name : String)
    (arguments : List String) : Act Unit := do
  let st ← get
  match findProgram st directories name with
  | .error fault =>
    complain (findingReason name fault)
    setStatus 127
  | .ok paths =>
    remember directories name (paths.headD "")
    let act := becomeOrEnd execute paths name arguments
    if isLast && !st.hasTraps && st.waiting.isEmpty then act else waitFor (endingOf act)

end Shell

end ModuleBuild
