import ModuleBuild.Shell.Expansion
import ModuleBuild.Shell.Tool.Describe

/-!
# What a simple command calls

The first text of a simple command names a function, a built-in tool or a program. In front of it,
`command` says that no function is meant.

## Main definitions

* `Shell.Callee`, `Shell.Call` — what is called, and with which arguments
* `Shell.callOf` — what some texts call
* `Shell.expandCall` — the texts that the words of a command stand for
-/

namespace ModuleBuild

namespace Shell

/-- What a simple command calls. -/
inductive Callee where
  /-- Nothing. -/
  | nothing
  /-- A function. -/
  | function (body : Command)
  /-- A built-in tool. -/
  | tool
  /-- A program. -/
  | program

/-- A call. -/
structure Call where
  /-- What is called. -/
  callee : Callee
  /-- The name by which it is called. -/
  name : String := ""
  /-- Its arguments. -/
  arguments : List String := []
  /-- Whether an error ends the script, and variables that are set keep their values. -/
  isSpecial : Bool := false
  /-- Where a program is looked for. -/
  directories : List String

/-- What follows `command` and its options, and whether programs are looked for in the standard
directories. There is nothing if the tool has something to do by itself. -/
def behindCommand? : Bool → List String → Option (Bool × List String)
  | _, [] => none
  | standard, text :: rest =>
    match text.toList with
    | ['-', '-'] => if rest.isEmpty then none else some (standard, rest)
    | '-' :: c :: cs =>
      if (c :: cs).all (· == 'p') then behindCommand? true rest else none
    | _ => some (standard, text :: rest)

/-- What some texts call, if functions count or not; `fuel` bounds how often `command` is given. -/
def callFrom (st : State) : Nat → Bool → List String → List String → Call
  | 0, _, directories, _ => { callee := .nothing, directories }
  | _, _, directories, [] => { callee := .nothing, directories }
  | fuel + 1, functionsCount, directories, name :: arguments =>
    let call (callee : Callee) : Call := { callee, name, arguments, directories }
    match if functionsCount then st.functions.lookup name else none with
    | some body => call (.function body)
    | none =>
      if !Tool.names.contains name then call .program
      else
        match if name = "command" then behindCommand? false arguments else none with
        | some (standard, rest) =>
          let directories :=
            if standard then directoriesOf Tool.standardDirectories else directories
          { callFrom st fuel false directories rest with isSpecial := false }
        | none => { call .tool with isSpecial := Tool.isSpecial name }

/-- What some texts call. -/
def callOf (st : State) (texts : List String) : Call :=
  callFrom st (texts.length + 1) true st.directories texts

/-- Whether texts call a tool whose arguments are variables that are set. -/
def setsVariables (st : State) (texts : List String) : Bool :=
  match callOf st texts with
  | { callee := .tool, name, .. } => ["export", "readonly", "local", "alias"].contains name
  | _ => false

/-- The texts that words stand for, behind those of the words before them. -/
def expandCall (outputOf : OutputOf) : List String → List Word → Act (List String)
  | texts, [] => return texts
  | texts, w :: rest => do
    match if setsVariables (← get) texts then assignment? w else none with
    | some (name, value) =>
      let text := name ++ "=" ++ (← expandValue outputOf value)
      expandCall outputOf (texts ++ [text]) rest
    | none => expandCall outputOf (texts ++ (← expandWord outputOf w)) rest

end Shell

end ModuleBuild
