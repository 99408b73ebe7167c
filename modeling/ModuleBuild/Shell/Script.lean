import ModuleBuild.Shell.Lexeme

/-!
# Reading a script

The commands of a script are read one after the other, so a flaw at the end of a script does not
keep its beginning from being run, and a name can come to stand for a text on the way.

## Main definitions

* `Shell.Reader.peek`, `Shell.Reader.expect` — look at the next piece
* `Shell.Reader.peekCommand` — looks at the next piece where a command can begin
* `Shell.readCommand` — reads a command
* `Shell.Step`, `Shell.Source.step` — goes through a script, line by line

## Implementation notes

A command can hold lists of further commands. They are read by `list`, a reader for lists that are
less deep; `depth` bounds how deep a list can be.
-/

namespace ModuleBuild

namespace Shell

/-- What ends a list of commands, and whether it may be empty. -/
inductive ListKind where
  /-- The end of a line ends it. -/
  | line
  /-- A word or an operator ends it, but not its first. -/
  | filled
  /-- A word or an operator ends it. -/
  | any
  deriving DecidableEq

/-- A reader of lists of commands. -/
abbrev ListReader := ListKind → Reader Command

/-! ### Pieces -/

/-- The commands whose output is put into a word, up to the parenthesis behind them. -/
def substituted (list : ListReader) : Reader Command := do
  let isWhole := (← get).isWhole
  let outer := (← get).held
  modify fun s => { s with held := none, isWhole := false }
  let command ← list .any
  if isWhole then return command
  let token ← match (← get).held with
    | some token => pure token
    | none => readToken (Reader.refuse "end of file unexpected (expecting \")\")")
  if !token.isOperator ")" then
    Reader.refuse (token.shown ++ " unexpected (expecting \")\")")
  modify fun s => { s with held := outer }
  return command

namespace Reader

/-- Reads the next piece and holds it. -/
def holdOne (list : ListReader) : Reader Token := do
  let before ← get
  let replaced := before.replaced.filter fun r => r.behind < before.rest.length
  set { before with replaced }
  let token ← readToken (substituted list)
  modify fun s =>
    let widened := replaced.any fun r => r.widens && s.rest.length ≤ r.behind
    { s with held := some token, widened }
  return token

/-- Puts a text in the place of the piece that is held, if that is a name that stands for a text.
The name is kept as it is inside of its own text. -/
def replaceHeld : Reader Bool := do
  let s ← get
  let name? := match s.held with
    | some (.word w) => (plainText? w).filter fun name => !keywords.contains name
    | _ => none
  match name?.bind fun name => (s.aliases.lookup name).map (name, ·) with
  | none => return false
  | some (name, text) =>
    let behind := s.rest.length
    if s.replaced.any fun r => r.name == name && r.behind ≤ behind then return false
    let cs := text.toList
    let widens := cs.getLast?.any fun c => c == ' ' || c == '\t'
    set { s with
      rest := cs ++ s.rest
      held := none
      replaced := { name, behind, widens } :: s.replaced.filter (·.behind < behind)
      limit := s.limit + cs.length }
    return true

/-- Reads the next piece and holds it. Behind a text that ends in a blank, names give way to the
texts that they stand for; `fuel` bounds their number. -/
def holdNext (list : ListReader) : Nat → Reader Token
  | 0 => holdOne list
  | fuel + 1 => do
    let token ← holdOne list
    if !(← get).widened then return token
    if ← replaceHeld then holdNext list fuel else return token

/-- The next piece, which is held. -/
def hold (list : ListReader) : Reader Token := do
  match (← get).held with
  | some token => return token
  | none => holdNext list (← get).limit

/-- Lets go of the piece that is held. -/
def drop : Reader Unit := modify fun s => { s with held := none }

/-- The next piece behind ends of lines; `fuel` bounds their number. -/
def holdBelow (list : ListReader) : Nat → Reader Token
  | 0 => hold list
  | fuel + 1 => do
    let token ← hold list
    if token.isNewline then
      drop
      holdBelow list fuel
    else return token

/-- The next piece, or the next one behind ends of lines. -/
def peek (list : ListReader) (newlines : Bool) : Reader Token := do
  if newlines then holdBelow list (← get).limit else hold list

/-- The next piece where a command can begin. Names give way to the texts that they stand for;
`fuel` bounds their number. -/
def peekFrom (list : ListReader) (newlines : Bool) : Nat → Reader Token
  | 0 => peek list newlines
  | fuel + 1 => do
    let token ← peek list newlines
    if ← replaceHeld then peekFrom list newlines fuel else return token

/-- The next piece where a command can begin, or the next one behind ends of lines. -/
def peekCommand (list : ListReader) (newlines : Bool) : Reader Token := do
  let s ← get
  peekFrom list newlines (s.limit * (s.aliases.length + 1))

/-- Refuses the piece that is held. -/
def unexpected {α : Type} (list : ListReader) (expected : Option String) : Reader α := do
  let token ← hold list
  let wish := match expected with
    | some e => " (expecting " ++ e ++ ")"
    | none => ""
  refuse (token.shown ++ " unexpected" ++ wish)

/-- Takes a word or an operator that must come next. -/
def expect (list : ListReader) (newlines : Bool) (text : String) : Reader Unit := do
  let token ← peek list newlines
  if token.isText text then drop else unexpected list (some ("\"" ++ text ++ "\""))

/-- Takes a word or an operator if it comes next. -/
def accept (list : ListReader) (newlines : Bool) (text : String) : Reader Bool := do
  let token ← peek list newlines
  if token.isText text then
    drop
    return true
  else return false

/-- Reads as long as there is something, after what has been read, the last one first; `fuel` bounds
how often. -/
def many {α : Type} (item : Reader (Option α)) : Nat → List α → Reader (List α)
  | 0, before => return before.reverse
  | fuel + 1, before => do
    match ← item with
    | some a => many item fuel (a :: before)
    | none => return before.reverse

/-- Reads as long as there is something. -/
def all {α : Type} (item : Reader (Option α)) : Reader (List α) := do
  many item (← get).limit []

end Reader

open Reader

/-! ### Simple commands -/

/-- A redirection behind its sign. -/
def redirectTo (list : ListReader) (stream : Nat) (direction : Direction) : Reader Redirect := do
  match direction with
  | .text untabbed => return .text stream (← readText (substituted list) untabbed)
  | .copy =>
    match ← hold list with
    | .word w =>
      drop
      return .copy stream w
    | _ => unexpected list none
  | .file opening =>
    match ← hold list with
    | .word w =>
      drop
      return .file stream opening w
    | _ => unexpected list none

/-- A redirection, if one comes next. -/
def redirect? (list : ListReader) : Reader (Option Redirect) := do
  match ← hold list with
  | .redirect stream direction =>
    drop
    return some (← redirectTo list stream direction)
  | _ => return none

/-- What a simple command is made of, the last one first. -/
structure SimpleParts where
  /-- The variables that are set. -/
  assignments : List (String × Word) := []
  /-- The words. -/
  words : List Word := []
  /-- The redirections. -/
  redirects : List Redirect := []

/-- The built-in tools whose names no function can have. -/
def specialNames : List String :=
  [".", ":", "break", "continue", "eval", "exec", "exit", "export", "local", "readonly", "return",
    "set", "shift", "times", "trap", "unset"]

/-- A function behind its name and a parenthesis. -/
def functionNamed (list : ListReader) (command : Reader Command) (word : Word) :
    Reader Command := do
  expect list false ")"
  match plainText? word with
  | some name =>
    if isName name && !specialNames.contains name then
      let _ ← peekCommand list true
      return .define name (← command)
    else refuse "Bad function name"
  | none => refuse "Bad function name"

/-- A simple command on a line after some of its parts, or a function that is defined; `fuel`
bounds the number of parts. -/
def simpleFrom (list : ListReader) (command : Reader Command) (line : Nat) :
    Nat → SimpleParts → Reader Command
  | 0, _ => unexpected list none
  | fuel + 1, read => do
    let finish : Command :=
      .simple line read.assignments.reverse read.words.reverse read.redirects.reverse
    match ← if read.words.isEmpty then peekCommand list false else hold list with
    | .word w =>
      drop
      match assignment? w, read.words with
      | some a, [] =>
        simpleFrom list command line fuel { read with assignments := a :: read.assignments }
      | _, _ => simpleFrom list command line fuel { read with words := w :: read.words }
    | .redirect stream direction =>
      drop
      let r ← redirectTo list stream direction
      simpleFrom list command line fuel { read with redirects := r :: read.redirects }
    | .operator "(" =>
      match read with
      | ⟨[], [name], []⟩ =>
        drop
        functionNamed list command name
      | _ => return finish
    | _ => return finish

/-! ### Commands that hold others -/

/-- A choice behind its condition's first word; `fuel` bounds the number of conditions. -/
def ifCommand (list : ListReader) : Nat → Reader Command
  | 0 => unexpected list (some "\"fi\"")
  | fuel + 1 => do
    let condition ← list .filled
    expect list false "then"
    let yes ← list .filled
    if ← accept list false "elif" then
      return .choose condition yes (← ifCommand list fuel)
    else if ← accept list false "else" then
      let no ← list .filled
      expect list false "fi"
      return .choose condition yes no
    else
      expect list false "fi"
      return .choose condition yes .done

/-- A repetition under a condition behind its first word. -/
def repeatCommand (list : ListReader) (untilWell : Bool) : Reader Command := do
  let condition ← list .filled
  expect list false "do"
  let body ← list .filled
  expect list false "done"
  return .repeated untilWell condition body

/-- A word, if one comes next. -/
def word? (list : ListReader) : Reader (Option Word) := do
  match ← hold list with
  | .word w =>
    drop
    return some w
  | _ => return none

/-- A repetition for words behind its first word. -/
def forCommand (list : ListReader) (line : Nat) : Reader Command := do
  let refuseName : Reader Command := refuse "Bad for loop variable"
  match ← hold list with
  | .word w =>
    let some name := plainText? w | refuseName
    if !isName name then return ← refuseName
    drop
    let items ←
      if ← accept list true "in" then
        let items ← all (word? list)
        match ← hold list with
        | .newline => drop
        | .operator ";" => drop
        | _ => unexpected list none
        pure (some items)
      else
        let _ ← accept list false ";"
        pure none
    expect list true "do"
    let body ← list .filled
    expect list false "done"
    return .forEach line name items body
  | _ => refuseName

/-- The patterns of an arm, between bars. -/
def patternList (list : ListReader) : Reader (List Word) := do
  let next : Reader (Option Word) := do
    if ← accept list false "|" then
      match ← word? list with
      | some w => return some w
      | none => unexpected list none
    else return none
  match ← word? list with
  | some w =>
    let more ← all next
    expect list false ")"
    return w :: more
  | none => unexpected list (some "\")\"")

/-- An arm of a choice between patterns, and whether it is the last one. -/
def arm (list : ListReader) : Reader ((List Word × Command) × Bool) := do
  let _ ← accept list true "("
  let patterns ← patternList list
  let body ← list .any
  if ← accept list true ";;" then return ((patterns, body), false)
  else if ← accept list true "esac" then return ((patterns, body), true)
  else unexpected list (some "\";;\"")

/-- The arms of a choice between patterns; `fuel` bounds their number. -/
def armsFrom (list : ListReader) : Nat → List (List Word × Command) →
    Reader (List (List Word × Command))
  | 0, _ => unexpected list (some "\"esac\"")
  | fuel + 1, before => do
    if ← accept list true "esac" then return before.reverse
    let (a, isLast) ← arm list
    if isLast then return (a :: before).reverse
    armsFrom list fuel (a :: before)

/-- A choice between patterns behind its first word. -/
def caseCommand (list : ListReader) (line : Nat) : Reader Command := do
  match ← word? list with
  | none => unexpected list (some "word")
  | some subject =>
    expect list true "in"
    return .select line subject (← armsFrom list (← get).limit [])

/-- A command and the redirections behind it. -/
def withRedirects (list : ListReader) (line : Nat) (command : Command) : Reader Command := do
  let redirects ← all (redirect? list)
  match redirects, command with
  | [], _ => return command
  | _, .apart _ body _ => return .apart line body redirects
  | _, _ => return .redirected line command redirects

/-- A command; `fuel` bounds how many functions are defined in one another. -/
def readCommand (list : ListReader) : Nat → Reader Command
  | 0 => unexpected list none
  | fuel + 1 => do
    let token ← hold list
    let line := (← get).line
    let compound (read : Reader Command) : Reader Command := do
      drop
      withRedirects list line (← read)
    let closed (text : String) (wrap : Command → Command) : Reader Command := do
      let body ← list .filled
      expect list false text
      return wrap body
    match token with
    | .operator "(" => compound (closed ")" fun body => .apart line body [])
    | .redirect .. => simpleFrom list (readCommand list fuel) line (← get).limit {}
    | .word w =>
      match plainText? w with
      | some "if" => compound (do ifCommand list (← get).limit)
      | some "while" => compound (repeatCommand list false)
      | some "until" => compound (repeatCommand list true)
      | some "for" => compound (forCommand list line)
      | some "case" => compound (caseCommand list line)
      | some "\x7b" => compound (closed "\x7d" id)
      | some text =>
        if text ∈ keywords then unexpected list none
        else simpleFrom list (readCommand list fuel) line (← get).limit {}
      | none => simpleFrom list (readCommand list fuel) line (← get).limit {}
    | _ => unexpected list none

/-! ### Lists -/

/-- A command, behind ends of lines. -/
def commandBelow (list : ListReader) (newlines : Bool) : Reader Command := do
  let _ ← peekCommand list newlines
  readCommand list (← get).limit

/-- Commands each of which reads what the one before it writes. -/
def pipeline (list : ListReader) (newlines : Bool) : Reader Command := do
  let _ ← peekCommand list newlines
  let negated ← accept list false "!"
  let first ← commandBelow list false
  let next : Reader (Option Command) := do
    if ← accept list false "|" then return some (← commandBelow list true)
    else return none
  let command := match ← all next with
    | [] => first
    | more => .pipeline (first :: more)
  return if negated then .negate command else command

/-- Commands that are joined by their success. -/
def joinedCommands (list : ListReader) : Reader Command := do
  let first ← pipeline list false
  let next : Reader (Option (Bool × Command)) := do
    if ← accept list false "&&" then return some (true, ← pipeline list true)
    else if ← accept list false "||" then return some (false, ← pipeline list true)
    else return none
  match ← all next with
  | [] => return first
  | more => return .joined first more

/-- Whether a piece ends a list of commands. -/
def endsList (token : Token) : Bool :=
  [")", ";;", "do", "done", "elif", "else", "esac", "fi", "then", "\x7d"].any (token.isText ·)

/-- A command that nobody waits for. -/
def sentBehind (line : Nat) : Command → Command
  | .redirected line command redirects => .behind line command redirects
  | command => .behind line command []

/-- A list of commands after those that have been read, the last one first; `fuel` bounds their
number. -/
def listFrom (list : ListReader) (kind : ListKind) : Nat → List Command → Reader Command
  | 0, _ => unexpected list none
  | fuel + 1, before => do
    let token ← peekCommand list (kind ≠ .line)
    let finish : Command := .sequence before.reverse
    match token with
    | .newline =>
      drop
      return finish
    | .finished => return finish
    | _ =>
      if endsList token && (kind = .any || (kind = .filled && !before.isEmpty)) then return finish
      let line := (← get).line
      let command ← joinedCommands list
      match ← hold list with
      | .operator "&" =>
        drop
        listFrom list kind fuel (sentBehind line command :: before)
      | .operator ";" =>
        drop
        listFrom list kind fuel (command :: before)
      | .newline => listFrom list kind fuel (command :: before)
      | .finished => return .sequence (command :: before).reverse
      | _ =>
        if kind = .line then unexpected list none
        return .sequence (command :: before).reverse

/-- Lists of commands that are not deeper than `depth`. -/
def lists : Nat → ListReader
  | 0, _ => refuse "end of file unexpected"
  | depth + 1, kind => do listFrom (lists depth) kind (← get).limit []

/-! ### Scripts -/

/-- How deep the commands of a script can be inside one another. -/
def depthLimit : Nat := 1000

/-- A step through a script. -/
inductive Step where
  /-- The commands of the next lines, and what is left behind them. -/
  | commands (command : Command) (behind : Source)
  /-- There are no more commands. -/
  | finished
  /-- There is something wrong. -/
  | flawed (flaw : Flaw)

namespace Source

/-- The next step through a script. It ends with a line. -/
def step (s : Source) : Step :=
  let next : Reader (Option Command) := do
    match ← hold (lists depthLimit) with
    | .finished => return none
    | _ => return some (← lists depthLimit .line)
  match next.run s with
  | .error flaw => .flawed flaw
  | .ok (none, _) => .finished
  | .ok (some command, behind) => .commands command behind

/-- Whether nothing is left of a script behind commands that have been read. -/
def isFinished (s : Source) : Bool :=
  match s.held with
  | some .finished => true
  | _ => false

/-- The lines of a script that have been read in a step. -/
def linesOf (s : Source) : Step → String
  | .commands _ behind => String.ofList (s.rest.take (s.rest.length - behind.rest.length))
  | .finished => String.ofList s.rest
  | .flawed flaw =>
    let count := flaw.line + 1 - s.line
    let lines := s.rest.splitOn '\n'
    let text := ['\n'].intercalate (lines.take count)
    String.ofList (if count < lines.length then text ++ ['\n'] else text)

end Source

end Shell

end ModuleBuild
