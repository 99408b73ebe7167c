import ModuleBuild.Shell.Tool.Basic

/-!
# Built-in tools for names that stand for texts

A name can stand for a text at the start of a command. `alias` gives names their texts or writes
them, and `unalias` takes them away. Lines that have been read keep what their names stood for.

## Main definitions

* `Shell.Tool.withAlias` — names with the text of one of them changed
* `Shell.Tool.aliasNames`, `Shell.Tool.unaliasNames` — the tools
-/

namespace ModuleBuild

namespace Shell

namespace Tool

/-- Names with the text of one of them changed. A new name comes last. -/
def withAlias (name text : String) : List (String × String) → List (String × String)
  | [] => [(name, text)]
  | p :: rest => if p.1 = name then (name, text) :: rest else p :: withAlias name text rest

/-- A name and its text as they are written in a script. -/
def aliasLine (p : String × String) : String := p.1 ++ "=" ++ quoted p.2 ++ "\n"

/-- The name and the text that an argument holds. The first character belongs to the name. -/
def aliasIn? (argument : String) : Option (String × String) :=
  match argument.toList with
  | [] => none
  | c :: cs =>
    match cs.dropWhile (· ≠ '=') with
    | [] => none
    | _ :: text => some (String.ofList (c :: cs.takeWhile (· ≠ '=')), String.ofList text)

/-- Gives names the texts that they stand for, or writes them. -/
def aliasNames (arguments : List String) : Act Nat := do
  if arguments.isEmpty then
    let names := inSlots 39 Prod.fst (← get).aliases
    return ← write 0 ("".intercalate (names.map aliasLine))
  let mut status := 0
  for argument in arguments do
    let st ← get
    match aliasIn? argument, st.aliases.lookup argument with
    | some (name, text), _ =>
      MonadStateOf.set { st with aliases := withAlias name text st.aliases }
    | none, some text => status ← write status (aliasLine (argument, text))
    | none, none =>
      let _ ← emit 2 ("alias: " ++ argument ++ " not found\n")
      status := 1
  return status

/-- Takes away the texts that names stand for. -/
def unaliasNames (arguments : List String) : Act Nat := do
  let (options, names) ← optionsOf "a" arguments
  if !options.isEmpty then
    modify fun st => { st with aliases := [] }
    return 0
  let mut status := 0
  for name in names do
    let st ← get
    if (st.aliases.lookup name).isSome then
      MonadStateOf.set { st with aliases := st.aliases.filter (·.1 ≠ name) }
    else
      let _ ← emit 2 ("unalias: " ++ name ++ " not found\n")
      status := 1
  return status

end Tool

end Shell

end ModuleBuild
