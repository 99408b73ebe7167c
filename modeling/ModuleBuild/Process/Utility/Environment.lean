import ModuleBuild.Process.Launch
import ModuleBuild.Process.Utility.Basic

/-!
# Programs that run other programs

`env` runs a program in another environment, `xargs` runs one with arguments that it reads.

## Main definitions

* `Launcher` — a program that runs other programs
* `Utility.env`, `Utility.xargs` — the programs
-/

namespace ModuleBuild

/-- What a program does that can run other programs. -/
abbrev Launcher := Execute → Job Ending

namespace Utility

/-! ### Environments -/

/-- An environment without a variable. -/
def unset (name : String) (environment : List (String × String)) : List (String × String) :=
  environment.filter (·.1 ≠ name)

/-- An environment in which a variable has a value. -/
def assign (name value : String) (environment : List (String × String)) :
    List (String × String) :=
  if environment.any (·.1 == name) then
    environment.map fun p => if p.1 = name then (name, value) else p
  else environment ++ [(name, value)]

/-- The assignments at the front of arguments, and the arguments behind them. -/
def assignments : List String → List (String × String) × List String
  | [] => ([], [])
  | a :: rest =>
    if a.toList.contains '=' then
      let name := a.toList.takeWhile (· ≠ '=')
      let (more, rest) := assignments rest
      ((String.ofList name, String.ofList (a.toList.drop (name.length + 1))) :: more, rest)
    else ([], a :: rest)

/-- Words in a text, which may be in quotes; `fuel` bounds the number of characters. -/
def wordsFrom : Nat → Option Char → Option (List Char) → List Char → List String
  | 0, _, word, _ => (word.map String.ofList).toList
  | _, _, word, [] => (word.map String.ofList).toList
  | fuel + 1, quote, word, c :: rest =>
    let more (c : Char) : Option (List Char) := some (word.getD [] ++ [c])
    match quote, c, rest with
    | some q, _, _ =>
      if c = q then wordsFrom fuel none (some (word.getD [])) rest
      else wordsFrom fuel quote (more c) rest
    | none, '\\', d :: rest => wordsFrom fuel none (more d) rest
    | none, _, _ =>
      if c = '"' ∨ c = '\x27' then wordsFrom fuel (some c) (some (word.getD [])) rest
      else if c = ' ' ∨ c = '\t' ∨ c = '\n' then
        (word.map String.ofList).toList ++ wordsFrom fuel none none rest
      else wordsFrom fuel none (more c) rest

/-- Words in a text. -/
def wordsOf (text : String) : List String := wordsFrom (text.length + 1) none none text.toList

/-- The options of `env`. -/
def envChoices : List Choice :=
  [{ key := "i", letters := ['i'], names := ["ignore-environment"] },
    { key := "u", letters := ['u'], names := ["unset"], value := .required },
    { key := "C", letters := ['C'], names := ["chdir"], value := .required },
    { key := "S", letters := ['S'], names := ["split-string"], value := .required },
    { key := "0", letters := ['0'], names := ["null"] },
    { key := "v", letters := ['v'], names := ["debug"] }]

/-- The options and operands of `env`, of which some may be in the value of an option; `fuel` bounds
how often. -/
def envOptions : Nat → List String → Except Refusal (List Given × List String)
  | 0, arguments => .ok ([], arguments)
  | fuel + 1, arguments => do
    let (given, operands) ← readOptions envChoices true arguments
    match given.span (·.1 ≠ "S") with
    | (front, (_, text) :: _) =>
      let (more, operands) ← envOptions fuel (wordsOf text ++ operands)
      return (front ++ more, operands)
    | _ => return (given, operands)

/-- What is said about words that are one argument in the first line of a script. -/
def splittingHint : Job Unit := say "use -[v]S to pass options in shebang lines"

/-- Why a program cannot be run, and the status for it. -/
def launchFails (name : String) (fault : FileFault) : Job Ending := do
  say (inQuotes name ++ ": " ++ fault.reason)
  if fault = .notFound then
    if name.toList.contains ' ' then splittingHint
    return .code 127
  else return .code 126

/-- Writes the environment, or runs a program in another one. -/
def env : Launcher := fun execute => do
  let task ← read
  let hasBlank (a : String) : Bool := a.startsWith "-" && a.toList.contains ' '
  match envOptions (task.arguments.length + 1) task.arguments with
  | .error message =>
    say message
    if message.endsWith "' '" && task.arguments.any hasBlank then splittingHint
    Job.complain ("Try '" ++ task.name ++ " --help' for more information.\n")
    return .code 125
  | .ok (given, operands) =>
    let isEmpty := has given "i" || operands.head? == some "-"
    let operands := if operands.head? = some "-" then operands.drop 1 else operands
    let (assigned, command) := assignments operands
    let wrong := (valuesOf given "u").find? fun n => n.isEmpty || n.toList.contains '='
    if let some name := wrong then
      say ("cannot unset " ++ inQuotes name ++ ": Invalid argument")
      return .code 125
    let start := if isEmpty then [] else task.environment
    let kept := (valuesOf given "u").foldl (fun e n => unset n e) start
    let environment := assigned.foldl (fun e p => assign p.1 p.2 e) kept
    match command with
    | [] =>
      if has given "C" then return .code (← misuse 125 "must specify command with --chdir (-C)")
      let ending := if has given "0" then "\x00" else "\n"
      return .code (← Job.print 0
        ("".intercalate (environment.map fun (n, v) => n ++ "=" ++ v ++ ending)))
    | name :: arguments =>
      let s ← get
      let cwd : Except (String × FileFault) Location := match (valuesOf given "C").getLast? with
        | none => .ok task.cwd
        | some place =>
          match s.files.entry task.cwd ⟨place⟩ with
          | .ok (l, .directory) => .ok l
          | .ok _ => .error (place, FileFault.notDirectory)
          | .error fault => .error (place, fault)
      match cwd with
      | .error (place, fault) =>
        say ("cannot change directory to " ++ quoted place ++ ": " ++ fault.reason)
        return .code 125
      | .ok cwd =>
        let inner := { task with name, arguments, environment, cwd }
        let place := SearchPath.ofEnvironment environment
        match Launch.run (Launch.orScript execute) place inner s with
        | .ok (ending, system) =>
          set system
          return ending
        | .error fault => launchFails name fault

/-! ### Arguments that are read -/

/-- The items in the input of `xargs`: words, lines, or texts between zeros. -/
def itemsOf (given : List Given) (text : String) : List String :=
  let between (c : Char) (cs : List Char) : List String :=
    ((cs.splitOn c).map String.ofList).filter (!·.isEmpty)
  if has given "0" then between '\x00' text.toList
  else
    match (valuesOf given "d").getLast? with
    | some mark => between ((mark.toList.head?).getD '\n') text.toList
    | none =>
      if has given "I" then
        (between '\n' text.toList).map fun line =>
          " ".intercalate (wordsOf (String.ofList (line.toList.dropWhile (· = ' '))))
      else wordsOf text

/-- Items in groups of a size; `fuel` bounds the number of groups. -/
def groupsOfSize (size : Nat) : Nat → List String → List (List String)
  | 0, _ => []
  | _, [] => []
  | fuel + 1, items => items.take size :: groupsOfSize size fuel (items.drop size)

/-- A text with another one in the place of each occurrence of a mark; `fuel` bounds the number of
characters. -/
def replaceAll (mark text : List Char) : Nat → List Char → List Char
  | 0, cs => cs
  | _, [] => []
  | fuel + 1, c :: cs =>
    if mark ≠ [] ∧ mark.isPrefixOf (c :: cs) then
      text ++ replaceAll mark text fuel ((c :: cs).drop mark.length)
    else c :: replaceAll mark text fuel cs

/-- The commands that `xargs` runs. -/
def commandsFor (given : List Given) (command items lines : List String) : List (List String) :=
  let number (key : String) : Option Nat := ((valuesOf given key).getLast?).bind String.toNat?
  match (valuesOf given "I").getLast?, number "n", number "L" with
  | some mark, _, _ =>
    items.map fun item => command.map fun word =>
      String.ofList (replaceAll mark.toList item.toList word.length word.toList)
  | none, some size, _ => (groupsOfSize (max 1 size) items.length items).map (command ++ ·)
  | none, none, some size =>
    (groupsOfSize (max 1 size) lines.length lines).map fun group =>
      command ++ group.flatMap wordsOf
  | none, none, none =>
    if items.isEmpty && has given "r" then [] else [command ++ items]

/-- Runs a program with items of its input as arguments. -/
def xargs : Launcher := fun execute => do
  let flag (c : Char) : Choice := { key := String.singleton c, letters := [c] }
  let value (c : Char) : Choice := { key := String.singleton c, letters := [c], value := .required }
  let known : List Choice :=
    [{ key := "0", letters := ['0'], names := ["null"] },
      { key := "r", letters := ['r'], names := ["no-run-if-empty"] }, flag 't', flag 'x',
      value 'n', value 'L', value 'I', value 'd', value 'P', value 's']
  let task ← read
  match readOptions known true task.arguments with
  | .error message => return .code (← misuse 1 message)
  | .ok (given, operands) =>
    let input ← Job.readInput none
    let text := input.toOption.getD ""
    let quotes (c : Char) : Nat := text.toList.count c
    if !has given "0" && !has given "d" && quotes '"' = 0 && quotes '\x27' % 2 = 1 then
      say ("unmatched single quote; by default quotes are special to xargs unless you use the " ++
        "-0 option")
      return .code 1
    let command := if operands.isEmpty then ["echo"] else operands
    let lines := (((text.toList.splitOn '\n').map String.ofList).filter (!·.isEmpty))
    let mut status := 0
    for words in commandsFor given command (itemsOf given text) lines do
      match words with
      | [] => pure ()
      | name :: arguments =>
        if has given "t" then Job.complain (" ".intercalate words ++ "\n")
        let (input, s) :=
          (← get).add { medium := .device .null, readable := true, writable := false }
        let (number, s) := s.withNumber
        let inner := { task.withStream 0 input with name, arguments, number, parent := task.number }
        let search := SearchPath.ofEnvironment task.environment
        match Launch.run (Launch.orScript execute) search inner s with
        | .error fault =>
          say (name ++ ": " ++ fault.reason)
          return .code (if fault = .notFound then 127 else 126)
        | .ok (ending, s) =>
          set s
          match ending with
          | .signal n =>
            say (name ++ ": terminated by signal " ++ toString n)
            return .code 125
          | .code 255 =>
            say (name ++ ": exited with status 255; aborting")
            return .code 124
          | .code 0 => pure ()
          | .code _ => status := 123
    if let .error fault := input then
      say ("error closing file: " ++ fault.reason)
      return .code 1
    return .code status

end Utility

end ModuleBuild
