import ModuleBuild.Process.Utility.Environment
import ModuleBuild.Process.Utility.Files
import ModuleBuild.Shell.Pattern

/-!
# Programs that list files

`ls` writes what is in directories, `find` what is at and below paths.

## Main definitions

* `Utility.ls` — lists directories
* `Utility.Search`, `Utility.find` — looks for files
-/

namespace ModuleBuild

namespace Utility

/-! ### Directories -/

/-- Whether a name is not shown. -/
def isHidden (name : String) : Bool := name.toList.head? == some '.'

/-- What is shown behind a name. -/
def markOf (given : List Given) (e : Entry) : String :=
  let classifies := has given "F"
  match e with
  | .directory => if classifies || has given "p" then "/" else ""
  | .link _ => if classifies then "@" else ""
  | .file _ runnable => if classifies && runnable then "*" else ""
  | .device _ => ""

/-- Names as options ask for them to be shown. -/
def shownNames (given : List Given) (names : List String) : String :=
  let names := if has given "Q" then names.map fun n => "\"" ++ n ++ "\"" else names
  let ended (text : String) : String := if names.isEmpty then "" else text ++ "\n"
  match lastOf given ["1", "C", "x", "m", "l"] with
  | some ("m", _) => ended (", ".intercalate names)
  | some ("C", _) => ended ("  ".intercalate names)
  | some ("x", _) => ended ("  ".intercalate names)
  | _ => "".intercalate (names.map (· ++ "\n"))

/-- Names in the order that options ask for. -/
def ordered (given : List Given) (names : List (String × Entry)) : List (String × Entry) :=
  let sorted := names.mergeSort fun a b => a.1 ≤ b.1
  if has given "r" then sorted.reverse else sorted

/-- What a directory at a location holds, as it is shown. -/
def contentShown (given : List Given) (files : FileTree) (l : Location) : String :=
  let names := (files.namesAt l).filterMap fun name =>
    (files.entryAt? (l ++ [name])).map fun e => (name, e)
  let hidden := has given "a" || has given "A"
  let names := if hidden then names else names.filter fun p => !isHidden p.1
  let names := if has given "a" then (".", .directory) :: ("..", .directory) :: names else names
  shownNames given ((ordered given names).map fun (name, e) => name ++ markOf given e)

/-- What is in directories, each with its name in front. -/
def sections (given : List Given) (files : FileTree) (headed : Bool) :
    List (String × Location) → List String
  | [] => []
  | (name, l) :: rest =>
    let heading := if headed then name ++ ":\n" else ""
    (heading ++ contentShown given files l) :: sections given files headed rest

/-- A directory and those below it. -/
def directoriesBelow (given : List Given) (files : FileTree) (name : String) (l : Location) :
    List (String × Location) :=
  let below := (files.childrenOf l).filter fun (m, e) =>
    e == .directory && (has given "a" || has given "A" || m.all fun n => !isHidden n)
  let below := below.map fun (m, _) => (inside name ("/".intercalate m), l ++ m)
  (name, l) :: below.mergeSort fun a b => a.1 ≤ b.1

/-- Lists directories. -/
def ls : Job Nat :=
  let flag (c : Char) (names : List String) : Choice :=
    { key := String.singleton c, letters := [c], names }
  let known : List Choice :=
    [flag 'a' ["all"], flag 'A' ["almost-all"], flag 'd' ["directory"], flag '1' [],
      flag 'r' ["reverse"], flag 'R' ["recursive"], flag 'F' ["classify"], flag 'p' [],
      flag 'l' [], flag 'm' [], flag 'C' [], flag 'x' [], flag 'Q' ["quote-name"], flag 'q' [],
      flag 'U' [], flag 't' [], flag 'S' [], flag 'n' [], flag 'h' [], flag 'L' [], flag 'H' [],
      flag 'B' [], flag 'c' [], flag 'u' [], flag 'v' [], flag 'X' [], flag 'N' [], flag 'b' [],
      flag 'f' [], flag 'g' [], flag 'i' ["inode"], flag 'k' [], flag 'o' [], flag 's' ["size"],
      flag 'D' [], flag 'G' [], flag 'Z' [],
      { key := "color", names := ["color"], value := .optional }]
  withOptions known false 2 fun given operands => do
    let (_, files) ← Job.files
    let mut status := 0
    let mut plain : List (String × Entry) := []
    let mut directories : List (String × Location) := []
    for path in if operands.isEmpty then ["."] else operands do
      let found ← if has given "l" || has given "d" then selfOf path else entryOf path
      match found with
      | .error fault =>
        say ("cannot access " ++ quoted path ++ ": " ++ fault.reason)
        status := 2
      | .ok (l, e) =>
        if e = .directory && !has given "d" then directories := directories ++ [(path, l)]
        else plain := plain ++ [(path, e)]
    let shownFiles := (ordered given plain).map fun (name, e) => name ++ markOf given e
    let sorted := directories.mergeSort fun a b => a.1 ≤ b.1
    let sorted := if has given "r" then sorted.reverse else sorted
    let all := if has given "R" then
        sorted.flatMap fun (name, l) => directoriesBelow given files name l
      else sorted
    let headed := 1 < operands.length || has given "R"
    let front := if shownFiles.isEmpty then [] else [shownNames given shownFiles]
    Job.print status ("\n".intercalate (front ++ sections given files headed all))

/-! ### Searches -/

/-- What is asked about each file that is found, and what is done with it. -/
inductive Search where
  /-- Whether its name or its path is described by a pattern. -/
  | named (whole ignoreCase : Bool) (p : Shell.Pattern)
  /-- Whether it is of a kind. -/
  | kind (letters : List Char)
  /-- Whether it is empty. -/
  | isEmpty
  /-- Whether it has a size. -/
  | size (passes : Nat → Bool)
  /-- Whether it may be run. -/
  | isRunnable
  /-- A fixed answer. -/
  | fixed (yes : Bool)
  /-- Its path is written, with something behind it. -/
  | print (ending : String)
  /-- It is removed. -/
  | delete
  /-- Nothing below it is looked at. -/
  | prune
  /-- A program is run for it. -/
  | run (words : List String)
  /-- A program is run for all of them. -/
  | gather (words : List String)
  /-- The opposite. -/
  | not (s : Search)
  /-- Both. -/
  | and (a b : Search)
  /-- One of them. -/
  | or (a b : Search)

/-- Whether a search does something by itself. -/
def Search.acts : Search → Bool
  | .print _ => true
  | .delete => true
  | .run _ => true
  | .gather _ => true
  | .not s => s.acts
  | .and a b => a.acts || b.acts
  | .or a b => a.acts || b.acts
  | _ => false

/-- The words of a search that stand alone. -/
def plainWords : List String :=
  ["!", "(", ")", "-not", "-o", "-or", "-a", "-and", "-empty", "-executable", "-true", "-false",
    "-print", "-print0", "-delete", "-prune", "-depth"]

/-- The words of a search that have an argument. -/
def wordsWithArgument : List String :=
  ["-name", "-iname", "-path", "-wholename", "-ipath", "-type", "-newer", "-size", "-maxdepth",
    "-mindepth"]

/-- What is wrong with the first word of a search that is out of place; `before` is the word in
front of it that asks something. If `isThere` says that it is a file, it may have been a pattern. -/
def faultIn? (isThere : String → Bool) (before : Option String) : List String → Option (List String)
  | [] => none
  | word :: rest =>
    if plainWords.contains word then faultIn? isThere (some word) rest
    else if wordsWithArgument.contains word then
      match rest with
      | [] => some ["missing argument to \x60" ++ word ++ "'"]
      | _ :: rest => faultIn? isThere (some word) rest
    else if word = "-exec" then
      faultIn? isThere (some word) ((rest.dropWhile fun w => w ≠ ";" && w ≠ "+").drop 1)
    else if word.startsWith "-" then some ["unknown predicate \x60" ++ word ++ "'"]
    else
      let guess := (before.filter fun _ => isThere word).map fun b =>
        "possible unquoted pattern after predicate \x60" ++ b ++ "'?"
      some (("paths must precede expression: \x60" ++ word ++ "'") :: guess.toList)
termination_by words => words.length
decreasing_by
  all_goals
    simp only [List.length_cons, List.length_drop]
    try have := (List.dropWhile_sublist (fun w => w ≠ ";" && w ≠ "+") (l := rest)).length_le
    omega

/-- A size in units, which a sign makes a limit. -/
structure SizeTest where
  /-- The sign. -/
  sign : Option Char
  /-- The number of units. -/
  count : Nat
  /-- The number of bytes in a unit. -/
  unit : Nat

/-- The size that a text spells. -/
def sizeTest? (text : String) : Except String SizeTest :=
  let cs := text.toList
  let sign := cs.head?.filter fun c => c == '+' || c == '-'
  let cs := if sign.isSome then cs.drop 1 else cs
  let digits := cs.takeWhile Char.isDigit
  let count := ((String.ofList digits).toNat?).getD 0
  let ok (unit : Nat) : Except String SizeTest := .ok { sign, count, unit }
  match cs.drop digits.length with
  | [] => ok 512
  | ['b'] => ok 512
  | ['c'] => ok 1
  | ['w'] => ok 2
  | ['k'] => ok 1024
  | ['M'] => ok 1048576
  | ['G'] => ok 1073741824
  | c :: _ => .error ("invalid -size type \x60" ++ String.singleton c ++ "'")

/-- Whether a number of bytes passes. Units that have been begun count. -/
def SizeTest.passes (t : SizeTest) (bytes : Nat) : Bool :=
  let units := (bytes + t.unit - 1) / t.unit
  match t.sign with
  | some '+' => t.count < units
  | some _ => units < t.count
  | none => units == t.count

/-- What reads a search from arguments, of which some are left. -/
abbrev SearchReader := StateT (List String) (Except String)

/-- The argument of a word. -/
def argumentOf (word : String) : SearchReader String := do
  match ← get with
  | a :: rest =>
    set rest
    return a
  | [] => throw ("missing argument to \x60" ++ word ++ "'")

/-- The words of a program up to a mark, and the mark. -/
def programWords : SearchReader (List String × String) := do
  let words ← get
  let front := words.takeWhile fun w => w ≠ ";" && w ≠ "+"
  match words.drop front.length with
  | mark :: rest =>
    set rest
    return (front, mark)
  | [] => throw "missing argument to \x60-exec'"

/-- The pattern that a text spells. -/
def patternOf (ignoreCase : Bool) (text : String) : Shell.Pattern :=
  let cs := if ignoreCase then text.toList.map Char.toLower else text.toList
  .ofMarked (cs.map (·, false))

/-- One item of a search; `whole` reads what stands in parentheses. -/
def searchItem (whole : SearchReader Search) : Nat → SearchReader Search
  | 0 => return .fixed true
  | fuel + 1 => do
    match ← get with
    | [] => throw "expected an expression"
    | word :: rest =>
      set rest
      let named (isPath ignoreCase : Bool) : SearchReader Search := do
        return .named isPath ignoreCase (patternOf ignoreCase (← argumentOf word))
      match word with
      | "!" => return .not (← searchItem whole fuel)
      | "-not" => return .not (← searchItem whole fuel)
      | "(" =>
        let s ← whole
        match ← get with
        | ")" :: rest =>
          set rest
          return s
        | _ => throw "invalid expression; expected to find a ')' but didn't see one."
      | "-name" => named false false
      | "-iname" => named false true
      | "-path" => named true false
      | "-wholename" => named true false
      | "-ipath" => named true true
      | "-type" =>
        let text ← argumentOf word
        let letters := text.toList.filter (· ≠ ',')
        match letters.find? fun c => !"fdlbcps".toList.contains c with
        | some c => throw ("Unknown argument to -type: " ++ String.singleton c)
        | none => return .kind letters
      | "-empty" => return .isEmpty
      | "-size" => return .size (← sizeTest? (← argumentOf word)).passes
      | "-executable" => return .isRunnable
      | "-true" => return .fixed true
      | "-false" => return .fixed false
      | "-newer" =>
        let _ ← argumentOf word
        return .fixed false
      | "-print" => return .print "\n"
      | "-print0" => return .print "\x00"
      | "-delete" => return .delete
      | "-prune" => return .prune
      | "-exec" =>
        let (words, mark) ← programWords
        return if mark = "+" then .gather words else .run words
      | "-o" =>
        throw "invalid expression; you have used a binary operator '-o' with nothing before it."
      | "-a" =>
        throw "invalid expression; you have used a binary operator '-a' with nothing before it."
      | _ => throw ("unknown predicate \x60" ++ word ++ "'")

/-- Items one after the other, all of which have to hold. -/
def searchAll (item : SearchReader Search) : Nat → SearchReader Search
  | 0 => item
  | fuel + 1 => do
    let a ← item
    match ← get with
    | [] => return a
    | word :: rest =>
      if word = "-o" || word = "-or" || word = ")" then return a
      if word = "-a" || word = "-and" then set rest
      return .and a (← searchAll item fuel)

/-- A search; `fuel` bounds the number of words. -/
def searchFrom : Nat → SearchReader Search
  | 0 => return .fixed true
  | fuel + 1 => do
    let a ← searchAll (searchItem (searchFrom fuel) (fuel + 1)) fuel
    match ← get with
    | word :: rest =>
      if word = "-o" || word = "-or" then
        set rest
        return .or a (← searchFrom fuel)
      else return a
    | [] => return a

/-- What has come of a search for one file. -/
structure Found where
  /-- Whether nothing below is looked at. -/
  pruned : Bool := false
  /-- The greatest status. -/
  status : Nat := 0
  /-- The paths for which a program is run in the end. -/
  gathered : List String := []

/-- Runs a program for a search. -/
def runFor (execute : Execute) (words : List String) : Job Bool := do
  let task ← read
  match words with
  | [] => return false
  | name :: arguments =>
    let (number, s) := (← get).withNumber
    let inner := { task with name, arguments, number, parent := task.number }
    let place := SearchPath.ofEnvironment task.environment
    match Launch.run (Launch.orScript execute) place inner s with
    | .ok (ending, s) =>
      set s
      return ending == .code 0
    | .error fault =>
      say (inQuotes name ++ ": " ++ fault.reason)
      return false

/-- How many bytes a directory has. -/
def directorySize : Nat := 4096

/-- Works out a search for what is at a path. -/
def Search.holds (execute : Execute) (path : String) (l : Location) (e : Entry) :
    Search → StateT Found Job Bool
  | .named whole ignoreCase p => do
    let text := if whole then path else lastName path
    let cs := if ignoreCase then text.toList.map Char.toLower else text.toList
    return p.accepts cs
  | .kind letters =>
    return letters.contains (match e with
      | .file .. => 'f'
      | .directory => 'd'
      | .link _ => 'l'
      | .device _ => 'c')
  | .isEmpty => do
    let files := (← getThe System).files
    return match e with
      | .file content _ => content.isEmpty
      | .directory => (files.namesAt l).isEmpty
      | _ => false
  | .size passes =>
    return passes (match e with
      | .file content _ => content.length
      | .directory => directorySize
      | .link target => target.text.length
      | .device _ => 0)
  | .isRunnable =>
    return match e with
      | .file _ runnable => runnable
      | _ => true
  | .fixed yes => return yes
  | .print ending => do
    let _ ← (Job.print 0 (path ++ ending) : Job Nat)
    return true
  | .delete => do
    let change (cwd : Location) (files : FileTree) : Except FileFault FileTree :=
      if e = .directory then files.removeEmpty cwd ⟨path⟩
      else files.removeFile cwd ⟨path⟩
    if path = "." then return true
    match ← (Job.changeFiles change : Job _) with
    | .ok () => return true
    | .error fault =>
      (say ("cannot delete " ++ inQuotes path ++ ": " ++ fault.reason) : Job Unit)
      modify fun f => { f with status := 1 }
      return false
  | .prune => do
    modify fun f => { f with pruned := true }
    return true
  | .run words => do
    let words := words.map fun w =>
      String.ofList (replaceAll ['\x7b', '\x7d'] path.toList (w.length + 1) w.toList)
    (runFor execute words : Job Bool)
  | .gather words => do
    let _ := words
    modify fun f => { f with gathered := f.gathered ++ [path] }
    return true
  | .not s => return !(← s.holds execute path l e)
  | .and a b => do if ← a.holds execute path l e then b.holds execute path l e else return false
  | .or a b => do if ← a.holds execute path l e then return true else b.holds execute path l e

/-- The words of the programs that are run for all files. -/
def Search.gathering : Search → List (List String)
  | .gather words => [words]
  | .not s => s.gathering
  | .and a b => a.gathering ++ b.gathering
  | .or a b => a.gathering ++ b.gathering
  | _ => []

/-- Whether a search removes files. -/
def Search.deletes : Search → Bool
  | .delete => true
  | .not s => s.deletes
  | .and a b => a.deletes || b.deletes
  | .or a b => a.deletes || b.deletes
  | _ => false

/-- What is at and below a path, each with its depth. -/
def placesBelow (files : FileTree) (path : String) (l : Location) (e : Entry) :
    List (String × Location × Entry × Nat) :=
  let below := (files.childrenOf l).map fun (m, e) =>
    (inside path ("/".intercalate m), l ++ m, e, m.length)
  let below := below.mergeSort fun a b => !b.2.1.lex a.2.1
  (path, l, e, 0) :: if e = .directory then below else []

/-- Numbers among the options of a search, and the other words. -/
def depthsOf : List String → Option Nat × Option Nat × List String
  | "-maxdepth" :: n :: rest =>
    let (_, least, words) := depthsOf rest
    (n.toNat?, least, words)
  | "-mindepth" :: n :: rest =>
    let (most, _, words) := depthsOf rest
    (most, n.toNat?, words)
  | "-depth" :: rest => depthsOf rest
  | word :: rest =>
    let (most, least, words) := depthsOf rest
    (most, least, word :: words)
  | [] => (none, none, [])

/-- Looks for files. -/
def find : Launcher := fun execute => do
  let arguments := (← read).arguments
  let isPath (a : String) : Bool := !(a.startsWith "-" || a = "(" || a = "!")
  let paths := arguments.takeWhile isPath
  let (most, least, words) := depthsOf (arguments.drop paths.length)
  if words.any fun w => w.startsWith "-O" && !(w.drop 2).isNat then
    say "Please specify a decimal number immediately after -O"
    return .code 1
  let (cwd, files) ← Job.files
  let isThere (path : String) : Bool := files.contains cwd ⟨path⟩
  if let some faults := faultIn? isThere none words then
    sayAll faults
    return .code 1
  let reading := if words.isEmpty then pure (.fixed true) else searchFrom (words.length + 1)
  let parsed := reading.run words
  match parsed with
  | .error message =>
    say message
    return .code 1
  | .ok (_, extra :: _) =>
    say (if extra = ")" then "invalid expression; you have too many ')'"
      else "paths must precede expression: \x60" ++ extra ++ "'")
    return .code 1
  | .ok (search, []) =>
    let whole := if search.acts then search else .and search (.print "\n")
    let mut status := 0
    let mut gathered : List String := []
    for path in if paths.isEmpty then ["."] else paths do
      match ← selfOf path with
      | .error fault =>
        say (inQuotes path ++ ": " ++ fault.reason)
        status := 1
      | .ok (l, e) =>
        let places := placesBelow (← get).files path l e
        let places :=
          if search.deletes || arguments.contains "-depth" then places.reverse else places
        let mut pruned : List Location := []
        for (p, m, entry, depth) in places do
          let isIn := (most.all (depth ≤ ·)) && (least.all (· ≤ depth)) &&
            !(pruned.any fun k => k.isPrefixOf m && k != m)
          if isIn then
            let (_, f) ← (whole.holds execute p m entry).run {}
            if f.pruned then pruned := m :: pruned
            gathered := gathered ++ f.gathered
            status := max status f.status
    for program in whole.gathering do
      let command := program.filter (· ≠ "\x7b\x7d") ++ gathered
      if !gathered.isEmpty then
        if !(← runFor execute command) then status := 1
    return .code status

end Utility

end ModuleBuild
