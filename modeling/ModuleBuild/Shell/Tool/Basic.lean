import ModuleBuild.Shell.Pattern
import ModuleBuild.Shell.State

/-!
# What built-in tools have in common

A built-in tool takes its arguments, acts on the state of the script, and gives a status. Its
arguments may begin with options.

## Main definitions

* `Shell.Tool.write` — writes the output of a tool
* `Shell.Tool.optionsOf` — the options among some arguments
* `Shell.Tool.wholeNumber` — an argument as a number
* `Shell.Tool.inSlots` — the order in which names are listed
* `Shell.Tool.quoted` — a text as it is written in a script
-/

namespace ModuleBuild

namespace Shell

namespace Tool

/-- Writes the output of a tool, and gives its status. -/
def write (status : Nat) (text : String) : Act Nat := do
  if text.isEmpty then return status
  if ← print text then return status
  let tool := (← get).tool.getD ""
  complain (tool ++ ": I/O error")
  return status ||| 1

/-! ### Options -/

/-- Whether a letter is among those that are allowed, and whether a colon behind it says that it has
a value. -/
def allowed? (letters : List Char) (c : Char) : Option Bool :=
  match letters.dropWhile (· ≠ c) with
  | _ :: rest => if c = ':' then none else some (rest.head? == some ':')
  | [] => none

/-- The options that the letters of one argument are, each with its value, and what is left of the
arguments behind it. -/
def lettersOf (letters : List Char) (rest : List String) :
    List Char → Act (List (Char × String) × List String)
  | [] => return ([], rest)
  | c :: cs => do
    match allowed? letters c with
    | none => fault ("Illegal option -" ++ String.singleton c)
    | some false =>
      let (options, rest) ← lettersOf letters rest cs
      return ((c, "") :: options, rest)
    | some true =>
      match cs, rest with
      | [], [] => fault ("No arg for -" ++ String.singleton c ++ " option")
      | [], value :: rest => return ([(c, value)], rest)
      | _, _ => return ([(c, String.ofList cs)], rest)

/-- The options at the front of arguments, and the arguments behind them; `fuel` bounds how many
arguments hold options. Two hyphens end the options. -/
def optionsFrom (letters : List Char) :
    Nat → List String → Act (List (Char × String) × List String)
  | 0, arguments => return ([], arguments)
  | fuel + 1, arguments => do
    match arguments with
    | [] => return ([], [])
    | "--" :: rest => return ([], rest)
    | first :: rest =>
      match first.toList with
      | '-' :: c :: cs =>
        let (options, rest) ← lettersOf letters rest (c :: cs)
        let (more, rest) ← optionsFrom letters fuel rest
        return (options ++ more, rest)
      | _ => return ([], arguments)

/-- The options at the front of arguments, each with its value, and the arguments behind them. Those
whose letter has a colon behind it in `letters` have a value. -/
def optionsOf (letters : String) (arguments : List String) :
    Act (List (Char × String) × List String) :=
  optionsFrom letters.toList (arguments.length + 1) arguments

/-- The last of the options that have been given. -/
def lastOption (options : List (Char × String)) : Option Char := (options.map Prod.fst).getLast?

/-- The arguments of a tool that has no options. -/
def withoutOptions (arguments : List String) : Act (List String) := do
  return (← optionsOf "" arguments).2

/-! ### Numbers -/

/-- Whether a character is a digit in base eight. -/
def isOctal (c : Char) : Bool := '0' ≤ c && c ≤ '7'

/-- The number that a text spells in base ten, with blanks around it and a sign. -/
def decimal? (text : String) : Option Int :=
  let trimmed := text.toList.dropWhile (inClass "space")
  let (negative, rest) : Bool × List Char :=
    match trimmed with
    | '-' :: rest => (true, rest)
    | '+' :: rest => (false, rest)
    | rest => (false, rest)
  let digits := rest.takeWhile Char.isDigit
  let behind := rest.dropWhile Char.isDigit
  let n : Nat := digits.foldl (fun n c => 10 * n + (c.toNat - 48)) 0
  let i : Int := if negative then -(n : Int) else n
  if digits.isEmpty || !behind.all (inClass "space") || i < Int64.minValue.toInt ||
    Int64.maxValue.toInt < i then none
  else some i

/-- Refuses an argument that is no number. -/
def illegalNumber {α : Type} (text : String) : Act α := fault ("Illegal number: " ++ text)

/-- An argument as a number. -/
def integer (text : String) : Act Int := do
  match decimal? text with
  | some n => return n
  | none => illegalNumber text

/-- An argument as a number that is not negative and has at most 31 bits. -/
def wholeNumber (text : String) : Act Nat := do
  let n ← integer text
  if n < 0 || Int32.maxValue.toInt < n then illegalNumber text
  return n.toNat

/-! ### Variables -/

/-- Refuses a name that no variable can have. -/
def checkName (name : String) : Act Unit := do
  if !isName name then fault (name ++ ": bad variable name")

/-- Gives the variable with a name a value. -/
def setNamed (name value : String) : Act Unit := do
  checkName name
  assign name value

/-! ### Order -/

/-- The slot of a name in a table with so many of them. -/
def slotOf (slots : Nat) (name : String) : Nat :=
  let bytes := name.toList.map Char.toNat
  (16 * bytes.headD 0 + bytes.foldl (· + ·) 0) % slots

/-- Entries by the slots of their names in a table. -/
def inSlots {α : Type} (slots : Nat) (name : α → String) (entries : List α) : List α :=
  (List.range slots).flatMap fun n => entries.filter fun a => slotOf slots (name a) = n

/-! ### Quotes -/

/-- A text as it is written in a script: in single quotes, single quotes in it being put in double
ones; `fuel` bounds the number of quotes. -/
def quotedFrom : Nat → List Char → String
  | 0, cs => String.ofList cs
  | fuel + 1, cs =>
    let front := cs.takeWhile (· ≠ '\x27')
    let rest := cs.dropWhile (· ≠ '\x27')
    let quotes := rest.takeWhile (· = '\x27')
    "'" ++ String.ofList front ++ "'" ++
      if quotes = [] then ""
      else
        let behind := rest.drop quotes.length
        "\"" ++ String.ofList quotes ++ "\"" ++ if behind = [] then "" else quotedFrom fuel behind

/-- A text as it is written in a script. -/
def quoted (text : String) : String := quotedFrom (text.length + 1) text.toList

end Tool

end Shell

end ModuleBuild
