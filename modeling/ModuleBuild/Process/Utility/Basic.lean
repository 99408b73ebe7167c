import ModuleBuild.Process.Task

/-!
# What small programs have in common

A small program reads its arguments, of which some are options, does its work, and says what has
gone wrong under the name by which it has been called.

## Main definitions

* `Utility.Choice` — an option that a program knows
* `Utility.readOptions` — the options and operands among some arguments
* `Utility.say`, `Utility.misuse` — say what has gone wrong
* `Utility.quoted`, `Utility.quotedIfNeeded` — names as they are shown
* `Utility.withOptions` — a program by what it does with options and operands
* `Utility.Loss`, `Utility.withLoss` — a program whose output may get lost
-/

namespace ModuleBuild

namespace Utility

/-- Whether an option has a value. -/
inductive Value where
  /-- It has none. -/
  | none
  /-- It has one. -/
  | required
  /-- It may have one. -/
  | optional
  deriving DecidableEq

/-- An option that a program knows. -/
structure Choice where
  /-- The name under which it is told. -/
  key : String
  /-- Its letters. -/
  letters : List Char := []
  /-- Its long names. -/
  names : List String := []
  /-- Whether it has a value. -/
  value : Value := .none

/-- An option that has been given, with its value. -/
abbrev Given := String × String

/-! ### Reading options -/

/-- Why arguments are refused. -/
abbrev Refusal := String

/-- The options that letters stand for, and what is left of the arguments behind them. -/
def readLetters (known : List Choice) (rest : List String) :
    List Char → Except Refusal (List Given × List String)
  | [] => .ok ([], rest)
  | c :: cs =>
    match known.find? (·.letters.contains c) with
    | none => .error s!"invalid option -- '{c}'"
    | some o =>
      match o.value with
      | .none => do
        let (more, rest) ← readLetters known rest cs
        return ((o.key, "") :: more, rest)
      | .optional => .ok ([(o.key, String.ofList cs)], rest)
      | .required =>
        match cs, rest with
        | [], [] => .error s!"option requires an argument -- '{c}'"
        | [], value :: rest => .ok ([(o.key, value)], rest)
        | _, _ => .ok ([(o.key, String.ofList cs)], rest)

/-- The options that all programs know. -/
def commonChoices : List Choice :=
  [{ key := "help", names := ["help"] }, { key := "version", names := ["version"] }]

/-- The long names that begin with a text, or are it. -/
def namesFor (known : List Choice) (text : String) : List (String × Choice) :=
  let all := (known ++ commonChoices).flatMap fun o => o.names.map (·, o)
  match all.filter (·.1 == text) with
  | [] => all.filter (·.1.startsWith text)
  | exact => exact

/-- The option that a long name stands for, and what is left of the arguments behind it. -/
def readName (known : List Choice) (rest : List String) (text : String) :
    Except Refusal (Given × List String) :=
  let name := String.ofList (text.toList.takeWhile (· ≠ '='))
  let value := text.toList.drop name.length
  match namesFor known name with
  | [] => .error s!"unrecognized option '--{text}'"
  | (full, o) :: others =>
    if others.any (·.2.key ≠ o.key) then
      let names := (full :: others.map Prod.fst).map fun n => s!" '--{n}'"
      .error (s!"option '--{text}' is ambiguous; possibilities:" ++ "".intercalate names)
    else
      match o.value, value, rest with
      | .none, [], _ => .ok ((o.key, ""), rest)
      | .none, _, _ => .error s!"option '--{full}' doesn't allow an argument"
      | .required, [], value :: rest => .ok ((o.key, value), rest)
      | .required, [], [] => .error s!"option '--{full}' requires an argument"
      | _, value, _ => .ok ((o.key, String.ofList (value.drop 1)), rest)

/-- The options and operands among arguments; `fuel` bounds how many of them hold options. Operands
may stand in front of options unless `strict` says otherwise. -/
def readFrom (known : List Choice) (strict : Bool) :
    Nat → List String → Except Refusal (List Given × List String)
  | 0, arguments => .ok ([], arguments)
  | fuel + 1, arguments => do
    match arguments with
    | [] => return ([], [])
    | "--" :: rest => return ([], rest)
    | first :: rest =>
      match first.toList with
      | '-' :: '-' :: name =>
        let (given, rest) ← readName known rest (String.ofList name)
        let (more, operands) ← readFrom known strict fuel rest
        return (given :: more, operands)
      | '-' :: c :: cs =>
        let (given, rest) ← readLetters known rest (c :: cs)
        let (more, operands) ← readFrom known strict fuel rest
        return (given ++ more, operands)
      | _ =>
        if strict then return ([], arguments)
        let (more, operands) ← readFrom known strict fuel rest
        return (more, first :: operands)

/-- The options and operands among arguments. -/
def readOptions (known : List Choice) (strict : Bool) (arguments : List String) :
    Except Refusal (List Given × List String) :=
  readFrom known strict (arguments.length + 1) arguments

/-! ### Saying what has gone wrong -/

/-- Says something under the name by which the program has been called. -/
def say (message : String) : Job Unit := do
  Job.complain ((← read).name ++ ": " ++ message ++ "\n")

/-- Says something line by line. -/
def sayAll (messages : List String) : Job Unit := messages.forM say

/-- Says how the program is used, and gives a status. -/
def misuse (status : Nat) (message : String) : Job Nat := do
  say message
  Job.complain ("Try '" ++ (← read).name ++ " --help' for more information.\n")
  return status

/-- A text in quotes as it is shown in a sentence. -/
def inQuotes (text : String) : String :=
  Octets.ofText "\u2018" ++ text ++ Octets.ofText "\u2019"

/-- The name of a file in quotes as a script would have it. -/
def quoted (name : String) : String :=
  if name.toList.contains '\x27' then "\"" ++ name ++ "\"" else "'" ++ name ++ "'"

/-- Whether a character in the name of a file has a meaning in scripts. -/
def needsQuotes (c : Char) : Bool :=
  c.toNat ≤ 32 || "!\"$&'()*;<=>?[\\]^\x60|".toList.contains c

/-- The name of a file, in quotes if a script would need them. -/
def quotedIfNeeded (name : String) : String :=
  if name.isEmpty || name.toList.any needsQuotes then quoted name else name

/-- A program by what it does with its options and operands; `status` is that of a wrong use. -/
def withOptions (known : List Choice) (strict : Bool) (status : Nat)
    (body : List Given → List String → Job Nat) : Job Nat := do
  match readOptions known strict (← read).arguments with
  | .error message => misuse status message
  | .ok (given, operands) => body given operands

/-- The options that a key has been given, and their values. -/
def valuesOf (given : List Given) (key : String) : List String :=
  (given.filter (·.1 == key)).map Prod.snd

/-- Whether an option has been given. -/
def has (given : List Given) (key : String) : Bool := given.any (·.1 == key)

/-- The last of some options that has been given. -/
def lastOf (given : List Given) (keys : List String) : Option Given :=
  (given.filter fun g => keys.contains g.1).getLast?

/-- What is said about the options of a program that lacks operands. -/
def missing (status : Nat) (what : String) (operands : List String) : Job Nat :=
  misuse status <| match operands.getLast? with
    | none => "missing " ++ what
    | some last => "missing " ++ what ++ " after " ++ inQuotes last

/-- Changes the files, or says what cannot be done. -/
def attempt (what : String) (change : Location → FileTree → Except FileFault FileTree) :
    Job Nat := do
  match ← Job.changeFiles change with
  | .ok () => return 0
  | .error fault =>
    say (what ++ ": " ++ fault.reason)
    return 1

/-- Does something for each operand, and gives the greatest status. -/
def forEach (operands : List String) (act : String → Job Nat) : Job Nat := do
  let mut status := 0
  for operand in operands do
    status := max status (← act operand)
  return status

/-! ### Output that cannot be written -/

/-- What comes of output that cannot be written. -/
structure Loss where
  /-- The status. -/
  status : Nat := 1
  /-- What is said. -/
  messages : FileFault → List String := fun fault => ["write error: " ++ fault.reason]

/-- Runs a program. Where its output cannot be written it is put aside, and something is said if
there is any. -/
def withLoss (loss : Loss) (run : Job Nat) : Job Nat := do
  match (← read).write 1 [0] (← get) with
  | .ok _ => run
  | .error fault =>
    let (reading, writing, system) := (← get).addPipe []
    set system
    let status ← withReader (·.withStream 1 writing) run
    if ((← get).contentOf reading).isEmpty then return status
    sayAll (loss.messages fault)
    return loss.status

end Utility

end ModuleBuild
