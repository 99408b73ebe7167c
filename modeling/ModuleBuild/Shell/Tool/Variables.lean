import ModuleBuild.Shell.Tool.Basic

/-!
# Built-in tools for variables, arguments and options

`export` and `readonly` mark variables, `unset` takes them away and `local` hides them. `set`
changes the options and arguments of a script, `shift` drops arguments, and `getopts` reads options
from them.

## Main definitions

* `Shell.Tool.marking` — the tools `export` and `readonly`
* `Shell.Tool.unset`, `Shell.Tool.localNames` — take variables away and hide them
* `Shell.Tool.set`, `Shell.Tool.shift` — change options and arguments
* `Shell.Tool.getopts` — reads options from arguments
-/

namespace ModuleBuild

namespace Shell

namespace Tool

/-! ### Variables -/

/-- A name and the value behind an equality sign, if there is one. -/
def splitAtEqual (text : String) : String × Option String :=
  let cs := text.toList
  let name := cs.takeWhile (· ≠ '=')
  match cs.drop name.length with
  | _ :: value => (String.ofList name, some (String.ofList value))
  | [] => (String.ofList name, none)

/-- The variables as they are written in a script, in order, behind a word. -/
def listed (word : String) (keep : Variable → Bool) (st : State) : String :=
  let chosen := st.bindings.filter fun p => keep p.2
  let lines := chosen.map fun (name, v) =>
    let value := match v.value with
      | some value => "=" ++ quoted value
      | none => ""
    (name, (if word.isEmpty then "" else word ++ " ") ++ name ++ value ++ "\n")
  "".intercalate ((lines.mergeSort fun a b => a.1 ≤ b.1).map Prod.snd)

/-- Marks variables, or writes those that are marked. -/
def marking (word : String) (isMarked : Variable → Bool) (change : Variable → Variable)
    (arguments : List String) : Act Nat := do
  let (options, arguments) ← optionsOf "p" arguments
  if !options.isEmpty || arguments.isEmpty then return ← write 0 (listed word isMarked (← get))
  for argument in arguments do
    let (name, value?) := splitAtEqual argument
    checkName name
    match value? with
    | some value => assign name value
    | none => pure ()
    mark name change
  return 0

/-- Marks variables that programs get. -/
def exportNames : List String → Act Nat :=
  marking "export" Variable.exported fun v => { v with exported := true }

/-- Marks variables that keep their values. -/
def readonlyNames : List String → Act Nat :=
  marking "readonly" Variable.fixed fun v => { v with fixed := true }

/-- Takes variables or functions away. -/
def unset (arguments : List String) : Act Nat := do
  let (options, names) ← optionsOf "vf" arguments
  for name in names do
    if lastOption options == some 'f' then
      modify fun st => { st with functions := st.functions.filter (·.1 ≠ name) }
    else
      checkName name
      forget name
  return 0

/-- Hides variables as long as a function runs. A hyphen stands for the options. -/
def localNames (arguments : List String) : Act Nat := do
  if (← get).hidden.isEmpty then fault "not in a function"
  for argument in arguments do
    if argument = "-" then hideOptions
    else
      let (name, value?) := splitAtEqual argument
      checkName name
      hide name
      match value? with
      | some value => assign name value
      | none => pure ()
  return 0

/-! ### Options and arguments -/

/-- Sets an option or takes it back. Without a terminal there are no groups of programs to be
controlled. -/
def setOption (on : Bool) (letter : Char) : Act Unit := do
  if on && letter == 'm' then complain "can't access tty; job control turned off"
  else
    let st ← get
    let others := st.options.filter (· ≠ letter)
    MonadStateOf.set { st with options := if on then letter :: others else others }

/-- Sets an option by its name, or takes it back. -/
def setNamedOption (on : Bool) (name : String) : Act Unit := do
  match optionNames.lookup name with
  | some letter => if letter ≠ '\x00' then setOption on letter
  | none => fault ("Illegal option " ++ (if on then "-o " else "+o ") ++ name)

/-- The options and whether they are set. -/
def optionList (on : Bool) (st : State) : String :=
  let line (p : String × Char) : String :=
    let isSet := st.options.contains p.2
    if on then
      p.1 ++ String.ofList (List.replicate (16 - p.1.length) ' ') ++
        if isSet then "on\n" else "off\n"
    else "set " ++ (if isSet then "-o " else "+o ") ++ p.1 ++ "\n"
  (if on then "Current option settings\n" else "") ++ "".intercalate (optionNames.map line)

/-- Sets the options that the letters of an argument stand for, and gives what is left of the
arguments behind it. -/
def setLetters (on : Bool) : List Char → List String → Act (List String)
  | [], rest => return rest
  | 'o' :: cs, rest => do
    match rest with
    | [] =>
      let _ ← print (optionList on (← get))
      setLetters on cs []
    | name :: rest =>
      setNamedOption on name
      setLetters on cs rest
  | c :: cs, rest => do
    if optionLetters.contains c then
      setOption on c
      setLetters on cs rest
    else fault ("Illegal option " ++ (if on then "-" else "+") ++ String.singleton c)

/-- Sets the options at the front of arguments, and gives the arguments behind them, unless there
are none; `fuel` bounds how many arguments hold options. -/
def setOptions : Nat → List String → Act (Option (List String))
  | 0, arguments => return some arguments
  | fuel + 1, arguments => do
    match arguments with
    | [] => return none
    | "--" :: rest => return some rest
    | "-" :: rest =>
      setOption false 'x'
      setOption false 'v'
      return if rest.isEmpty then none else some rest
    | first :: rest =>
      match first.toList with
      | '-' :: cs => setOptions fuel (← setLetters true cs rest)
      | '+' :: cs => setOptions fuel (← setLetters false cs rest)
      | _ => return some arguments

/-- Gives a script new arguments. -/
def setArguments (arguments : List String) : Act Unit := modify fun st =>
  { st with arguments, optionIndex := 1, optionPlace := none }

/-- Changes the options and arguments of a script, or writes its variables. -/
def set (arguments : List String) : Act Nat := do
  if arguments.isEmpty then
    return ← write 0 (listed "" (fun v => v.value.isSome) (← get))
  match ← setOptions (arguments.length + 1) arguments with
  | some arguments => setArguments arguments
  | none => pure ()
  return 0

/-- Drops arguments of a script. -/
def shift (arguments : List String) : Act Nat := do
  let count ← match arguments with
    | [] => pure 1
    | count :: _ => wholeNumber count
  let st ← get
  if st.arguments.length < count then fault "can't shift that many"
  setArguments (st.arguments.drop count)
  return 0

/-! ### Options of a script -/

/-- What the next letter of the options has come to. -/
structure OptionRead where
  /-- The letter, or what stands for it. -/
  letter : Char := '?'
  /-- The value, unless there is none. -/
  value : Option String := none
  /-- The argument that is read next. -/
  index : Nat
  /-- How much of the argument before it has been read. -/
  place : Option Nat := none
  /-- What is said. -/
  message : String := ""
  /-- Whether there is no more option. -/
  ended : Bool := false

/-- Where a letter is among the options, and whether it has a value. -/
def optionAt? (c : Char) : List Char → Option Bool
  | [] => none
  | [l] => if l = c then some false else none
  | l :: m :: rest =>
    if l = c then some (m == ':')
    else if m = ':' then optionAt? c rest
    else optionAt? c (m :: rest)

/-- The next letter of the options in arguments, `index` being the argument that is read next and
`place` how much of the one before it has been read. -/
def nextLetter (letters : List Char) (arguments : List String) (index : Nat) (place : Option Nat) :
    OptionRead :=
  let silent := letters.head? == some ':'
  let before := (arguments[index - 2]?.getD "").toList
  let inside : List Char := match place with
    | some n => if 2 ≤ index then before.drop n else []
    | none => []
  let read (cs : List Char) (index : Nat) : OptionRead :=
    match cs with
    | [] => { index, ended := true }
    | c :: cs =>
      let word := (arguments[index - 2]?.getD "").toList
      let place := some (word.length - cs.length)
      match optionAt? c letters with
      | none =>
        if silent then { value := some (String.singleton c), index, place }
        else { index, place, message := "Illegal option -" ++ String.singleton c ++ "\n" }
      | some false => { letter := c, value := some "", index, place }
      | some true =>
        match cs, arguments[index - 1]? with
        | [], none =>
          if silent then { letter := ':', value := some (String.singleton c), index }
          else { index, message := "No arg for -" ++ String.singleton c ++ " option\n" }
        | [], some value => { letter := c, value := some value, index := index + 1 }
        | _, _ => { letter := c, value := some (String.ofList cs), index }
  match inside with
  | c :: cs => read (c :: cs) index
  | [] =>
    match arguments[index - 1]?.map String.toList with
    | some ['-', '-'] => { index := index + 1, ended := true }
    | some ('-' :: c :: cs) => read (c :: cs) (index + 1)
    | _ => { index, ended := true }

/-- Reads the next option from arguments into a variable. -/
def getopts (arguments : List String) : Act Nat := do
  match ← withoutOptions arguments with
  | letters :: name :: given =>
    let st ← get
    let all := if given.isEmpty then st.arguments else given
    let isBehind := all.length + 1 < st.optionIndex
    let index := if isBehind then 1 else st.optionIndex
    let place := if isBehind then none else st.optionPlace
    let r := nextLetter letters.toList all index place
    let _ ← emit 2 r.message
    match r.value with
    | some value => assign "OPTARG" value
    | none => if !r.ended then forget "OPTARG"
    assign "OPTIND" (toString r.index)
    setNamed name (String.singleton r.letter)
    modify fun st => { st with optionIndex := r.index, optionPlace := r.place }
    return if r.ended then 1 else 0
  | _ => fault "Usage: getopts optstring var [arg...]"

end Tool

end Shell

end ModuleBuild
