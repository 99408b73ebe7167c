import ModuleBuild.Shell.Launch
import ModuleBuild.Shell.Script
import ModuleBuild.Shell.Tool.Basic

/-!
# Built-in tools that say what a name means

A name at the start of a command can mean a keyword, a function, a built-in tool or a program.

## Main definitions

* `Shell.Tool.names` — the built-in tools
* `Shell.Tool.isSpecial` — whether an error of a built-in tool ends the script
* `Shell.Tool.describe` — what a name means
* `Shell.Tool.typeOf`, `Shell.Tool.command`, `Shell.Tool.hash` — the tools
-/

namespace ModuleBuild

namespace Shell

namespace Tool

/-- Whether an error of the built-in tool with a name ends the script. -/
def isSpecial (name : String) : Bool := specialNames.contains name

/-- The names of the built-in tools. -/
def names : List String :=
  specialNames ++ ["[", "alias", "bg", "cd", "chdir", "command", "echo", "false", "fg", "getopts",
    "hash", "jobs", "kill", "printf", "pwd", "read", "test", "true", "type", "ulimit", "umask",
    "unalias", "wait"]

/-- The directories in which programs are looked for where none are set. -/
def standardDirectories : String :=
  "/usr/local/sbin:/usr/local/bin:/usr/sbin:/usr/bin:/sbin:/bin"

/-- What a name means, in words or as what it stands for, and the status. -/
def describe (verbose : Bool) (directories : List String) (name : String) (st : State) :
    String × Nat :=
  let told (words short : String) : String × Nat :=
    ((if verbose then name ++ words else short) ++ "\n", 0)
  let unknown : String × Nat := (if verbose then name ++ ": not found\n" else "", 127)
  let text? := st.aliases.lookup name
  let path? := if directories = st.directories then st.known.lookup name else none
  if keywords.contains name then told " is a shell keyword" name
  else if let some text := text? then
    told (" is an alias for " ++ text) ("alias " ++ name ++ "=" ++ quoted text)
  else if (st.functions.lookup name).isSome then told " is a shell function" name
  else if names.contains name then
    told (if isSpecial name then " is a special shell builtin" else " is a shell builtin") name
  else if isPath name then
    if st.system.files.contains st.task.cwd ⟨name⟩ then told (" is " ++ name) name
    else unknown
  else if let some path := path? then told (" is a tracked alias for " ++ path) path
  else
    match findProgram st directories name with
    | .ok (path :: _) => told (" is " ++ path) path
    | _ => unknown

/-- What a name means, and the status. A program that is found is remembered. -/
def tell (verbose : Bool) (directories : List String) (name : String) : Act (String × Nat) := do
  let st ← get
  let isProgram := !names.contains name && (st.functions.lookup name).isNone
  if isProgram then
    match findProgram st directories name with
    | .ok (path :: _) => remember directories name path
    | _ => pure ()
  return describe verbose directories name st

/-- Says what names mean. -/
def typeOf (arguments : List String) : Act Nat := do
  let directories := (← get).directories
  let told ← (← withoutOptions arguments).mapM (tell true directories)
  write (told.foldl (fun status p => status ||| p.2) 0) ("".intercalate (told.map Prod.fst))

/-- Says what the first of some names means, if an option asks for it. -/
def command (arguments : List String) : Act Nat := do
  let (options, arguments) ← optionsOf "pvV" arguments
  let has (c : Char) : Bool := options.any (·.1 == c)
  match arguments with
  | [] => return 0
  | name :: _ =>
    if !has 'v' && !has 'V' then return 0
    let directories ←
      if has 'p' then pure (directoriesOf standardDirectories) else pure (← get).directories
    let (text, status) ← tell (has 'V') directories name
    write status text

/-- Looks for programs, forgets where they are, or writes what is known. -/
def hash (arguments : List String) : Act Nat := do
  let (options, found) ← optionsOf "r" arguments
  if !options.isEmpty then
    modify fun st => { st with known := [] }
    return 0
  if found.isEmpty then
    let known := inSlots 31 Prod.fst (← get).known
    return ← write 0 ("".intercalate (known.map fun p => p.2 ++ "\n"))
  let mut status := 0
  for name in found do
    modify fun st => { st with known := st.known.filter (·.1 ≠ name) }
    let st ← get
    let isKnown := names.contains name || (st.functions.lookup name).isSome
    if !isKnown && !isPath name then
      match findProgram st st.directories name with
      | .ok paths => remember st.directories name (paths.headD "")
      | .error fault =>
        complain (findingReason name fault)
        status := 1
  return status

end Tool

end Shell

end ModuleBuild
