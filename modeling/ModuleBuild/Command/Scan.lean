/-!
# Options on a command line

A command line is a list of words. A word that begins with a hyphen names options, and the word
after an option may be its value; all other words are operands. Each option can be given once.

## Main definitions

* `Command.Rule` — how an option is spelled, and what it takes
* `Command.Given` — what a command line gives
* `Command.Refusal` — why a command line is not carried out
* `Command.scan` — goes through the words of a command line
-/

namespace ModuleBuild

namespace Command

/-- What an option is about. -/
inductive Key where
  /-- Print nothing but diagnostics. -/
  | quiet
  /-- Print every tool call. -/
  | verbose
  /-- When to colour labels. -/
  | colour
  /-- The configuration file. -/
  | config
  /-- Print the version. -/
  | version
  /-- The target module, or the path to wait for. -/
  | target
  /-- The build profile. -/
  | profile
  /-- The frame-pointer policy. -/
  | framePointer
  /-- The output directory. -/
  | outputDir
  /-- The name of the manifest. -/
  | manifest
  /-- The flags for the first tool. -/
  | passthrough
  /-- An archive. -/
  | archive
  /-- A response file. -/
  | response
  /-- Print the objects. -/
  | dump
  /-- The first tool. -/
  | debaseTool
  /-- The lowering tool. -/
  | loweringTool
  /-- How many units are lowered at the same time. -/
  | jobs
  /-- The format of the diagnostics. -/
  | format
  /-- How long to wait. -/
  | timeout
  deriving DecidableEq

/-- What an option takes. -/
inductive Takes where
  /-- Nothing. -/
  | nothing
  /-- A value. -/
  | value
  /-- A value, or nothing, which counts as an empty value. -/
  | perhaps
  deriving DecidableEq

/-- How an option is spelled, and what it takes. -/
structure Rule where
  /-- What the option is about. -/
  key : Key
  /-- Its names behind two hyphens. -/
  names : List String
  /-- Its letter behind one hyphen. -/
  letter : Option Char := none
  /-- What it takes. -/
  takes : Takes := .value
  /-- Whether its value may look like an option. -/
  anyValue : Bool := false
  /-- Whether it can have a value. -/
  accepts : String → Bool := fun _ => true

/-- What a command line gives. -/
structure Given where
  /-- The options with their values. -/
  options : List (Key × String) := []
  /-- The operands. -/
  operands : List String := []
  deriving DecidableEq

/-- Why a command line is not carried out. -/
inductive Refusal where
  /-- It is not a proper command line. -/
  | usage
  /-- It asks for the version. -/
  | version
  deriving DecidableEq

namespace Given

/-- The value of an option. -/
def value? (g : Given) (key : Key) : Option String := g.options.lookup key

/-- Whether an option is given. -/
def has (g : Given) (key : Key) : Bool := (g.value? key).isSome

/-- One more option with its value. -/
def give (g : Given) (rule : Rule) (value : String) : Except Refusal Given :=
  if rule.key = .version then .error .version
  else if g.has rule.key || !rule.accepts value then .error .usage
  else .ok { g with options := g.options ++ [(rule.key, value)] }

/-- An option that gets no value. -/
def giveNothing (g : Given) (rule : Rule) : Except Refusal Given :=
  if rule.takes = .value then .error .usage else g.give rule ""

/-- An option that waits for its value and does not get one. -/
def close (g : Given) : Option Rule → Except Refusal Given
  | some rule => g.giveNothing rule
  | none => .ok g

end Given

/-! ### Words -/

/-- Whether a word is an option or marks the end of the options. -/
def looksLikeOption (word : String) : Bool :=
  word.toList.head? == some '-' && word != "-"

/-- Options by their letters: the first one that takes a value gets the rest of the word, or waits
for the next word. -/
def letters (rules : List Rule) (g : Given) : List Char → Except Refusal (Option Rule × Given)
  | [] => .ok (none, g)
  | c :: rest =>
    match rules.find? (·.letter == some c) with
    | none => .error .usage
    | some rule =>
      if rule.takes = .nothing then do letters rules (← g.give rule "") rest
      else
        match rest with
        | [] => .ok (some rule, g)
        | '=' :: value => do return (none, ← g.give rule (String.ofList value))
        | value => do return (none, ← g.give rule (String.ofList value))

/-- An option by its name, with a value behind an equals sign or without one. -/
def named (rules : List Rule) (g : Given) (cs : List Char) :
    Except Refusal (Option Rule × Given) := do
  let name := String.ofList (cs.takeWhile (· ≠ '='))
  match rules.find? (·.names.contains name), cs.dropWhile (· ≠ '=') with
  | none, _ => throw .usage
  | some rule, [] =>
    if rule.takes = .nothing then return (none, ← g.give rule "") else return (some rule, g)
  | some rule, _ :: value =>
    if rule.takes = .nothing then throw .usage
    return (none, ← g.give rule (String.ofList value))

/-- A word that looks like an option. -/
def optionWord (rules : List Rule) (g : Given) (word : String) :
    Except Refusal (Option Rule × Given) :=
  match word.toList with
  | '-' :: '-' :: cs => named rules g cs
  | _ :: cs => letters rules g cs
  | [] => .error .usage

/-- Where going through a command line stops. -/
inductive Stop where
  /-- At its end. -/
  | done
  /-- At an operand that begins something new; the words behind it are left. -/
  | at (operand : String) (rest : List String)
  deriving DecidableEq

/-- Goes through the words of a command line, up to the end or the first operand at which to stop.
The option in `pending` waits for its value. -/
def scan (rules : List Rule) (stopsAt : String → Bool) :
    Option Rule → Given → List String → Except Refusal (Given × Stop)
  | pending, g, [] => do return (← g.close pending, .done)
  | pending, g, word :: rest => do
    match pending with
    | some rule =>
      if rule.anyValue || !looksLikeOption word then
        return ← scan rules stopsAt none (← g.give rule word) rest
    | none => pure ()
    let g ← g.close pending
    if word = "--" then return ({ g with operands := g.operands ++ rest }, .done)
    else if looksLikeOption word then
      let (pending, g) ← optionWord rules g word
      scan rules stopsAt pending g rest
    else if stopsAt word then return (g, .at word rest)
    else scan rules stopsAt none { g with operands := g.operands ++ [word] } rest

end Command

end ModuleBuild
