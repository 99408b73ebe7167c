import ModuleBuild.Process.Utility.Lines
import ModuleBuild.Text.Regex

/-!
# Scripts that edit lines

`sed` goes through the lines of files with a script of commands. Each command may be limited to some
lines. It changes a text, the line at first, which is written at the end of the script; another text
is kept from line to line.

## Main definitions

* `Edit.Address`, `Edit.Command` — commands and the lines that they are for
* `Edit.Command.parse` — the commands that a text spells
* `Edit.run` — goes through lines
-/

namespace ModuleBuild

namespace Edit

/-! ### Commands -/

/-- Lines that a command is for. -/
inductive Address where
  /-- The line with a number. -/
  | line (n : Nat)
  /-- The last line. -/
  | last
  /-- The lines from one on, in steps. -/
  | steps (first step : Nat)
  /-- The lines in which an expression describes something; no expression is the one used last. -/
  | describes (r : Option Regex) (ignoreCase : Bool)
  /-- So many lines behind the first one. -/
  | more (n : Nat)
  /-- Up to a multiple of a number. -/
  | multiple (n : Nat)

/-- A part of what something is replaced by. -/
inductive Part where
  /-- A character. -/
  | char (c : Char)
  /-- What a group has described, zero being the whole. -/
  | group (n : Nat)
  /-- A change of case from here on. -/
  | case (c : Char)
  deriving DecidableEq

/-- How often something is replaced, and what happens then. -/
structure Flags where
  /-- Every time. -/
  all : Bool := false
  /-- From which time on. -/
  time : Nat := 1
  /-- Whether the text is written. -/
  prints : Bool := false
  /-- Whether capital and small letters are the same. -/
  ignoreCase : Bool := false
  /-- The file to which the text is written. -/
  file : Option String := none

/-- What a command does. -/
inductive Action where
  /-- Replaces what an expression describes. -/
  | replace (r : Option Regex) (parts : List Part) (flags : Flags)
  /-- Changes characters. -/
  | change (pairs : List (Char × Char))
  /-- Does what a letter says. -/
  | letter (c : Char)
  /-- Writes a text in front of the line, behind it or for it. -/
  | text (c : Char) (s : String)
  /-- Goes to a label, or to the end. -/
  | jump (c : Char) (label : String)
  /-- A label. -/
  | label (name : String)
  /-- Writes to a file, or writes what is in one. -/
  | file (c : Char) (path : String)
  /-- Ends with a status. -/
  | quit (c : Char) (status : Nat)
  /-- Begins a group of commands. -/
  | opening
  /-- Ends a group of commands. -/
  | closing

/-- A command. -/
structure Command where
  /-- The lines that it is for. -/
  addresses : List Address
  /-- Whether it is for the other lines. -/
  inverted : Bool
  /-- What it does. -/
  action : Action

/-! ### Reading -/

/-- What reads commands from characters, of which some are left. -/
abbrev Reader := StateT (List Char) (Except (String × Nat))

/-- Refuses a script at the place where one is. -/
def refuse {α : Type} (message : String) : Reader α := do throw (message, (← get).length)

/-- Takes the next character if it is a certain one. -/
def accept (c : Char) : Reader Bool := do
  match ← get with
  | d :: rest =>
    if c = d then set rest
    return c == d
  | [] => return false

/-- Passes over characters of a kind. -/
def skip (p : Char → Bool) : Reader Unit := modify fun cs => cs.dropWhile p

/-- Whether a character is a blank. -/
def isBlank (c : Char) : Bool := c == ' ' || c == '\t'

/-- The number that comes next. -/
def number : Reader Nat := do
  let digits := (← get).takeWhile Char.isDigit
  set ((← get).drop digits.length)
  return digits.foldl (fun n c => 10 * n + (c.toNat - 48)) 0

/-- The text up to a mark, of which a backslash takes the meaning; `fuel` bounds its length, and
`inSet` says that a set of characters goes on. -/
def upTo? (mark : Char) (isExpression : Bool) :
    Nat → Bool → List Char → Option (List Char × List Char)
  | 0, _, _ => none
  | _, _, [] => none
  | fuel + 1, inSet, '\\' :: c :: rest =>
    if inSet then (upTo? mark isExpression fuel inSet (c :: rest)).map fun (t, r) => ('\\' :: t, r)
    else
      (upTo? mark isExpression fuel inSet rest).map fun (t, r) =>
        (if c = mark ∧ isExpression then c :: t
          else if c = mark then (if c = '&' then '\\' :: c :: t else c :: t)
          else '\\' :: c :: t, r)
  | fuel + 1, inSet, c :: rest =>
    if c = mark ∧ !inSet then some ([], rest)
    else if c = '\n' ∧ isExpression then none
    else
      let inSet := isExpression && (if inSet then c != ']' else c == '[')
      (upTo? mark isExpression fuel inSet rest).map fun (t, r) => (c :: t, r)

/-- The text up to a mark. -/
def upTo (mark : Char) (isExpression : Bool) (message : String) : Reader (List Char) := do
  let cs ← get
  match upTo? mark isExpression (cs.length + 1) false cs with
  | some (text, rest) =>
    set rest
    return text
  | none =>
    set ([] : List Char)
    refuse message

/-- The expression that a text spells, the empty one being the one used last. -/
def expression (extended : Bool) (text : List Char) : Reader (Option Regex) := do
  if text.isEmpty then return none
  match Regex.parse extended (String.ofList text) with
  | .ok r => return some r
  | .error message => refuse message

/-- The parts of what something is replaced by. -/
def parts : List Char → List Part
  | [] => []
  | '\\' :: c :: rest =>
    let part : Part :=
      if c.isDigit then .group (c.toNat - 48)
      else if "LUEul".toList.contains c then .case c
      else if c = 'n' then .char '\n'
      else if c = 't' then .char '\t'
      else .char c
    part :: parts rest
  | '&' :: rest => .group 0 :: parts rest
  | c :: rest => .char c :: parts rest

/-- The letters behind a replacement; `fuel` bounds their number. -/
def flagsFrom : Nat → Flags → Reader Flags
  | 0, f => return f
  | fuel + 1, f => do
    match ← get with
    | [] => return f
    | c :: rest =>
      if c.isDigit then
        let n ← number
        flagsFrom fuel { f with time := n }
      else
        match c with
        | 'g' => set rest; flagsFrom fuel { f with all := true }
        | 'p' => set rest; flagsFrom fuel { f with prints := true }
        | 'i' => set rest; flagsFrom fuel { f with ignoreCase := true }
        | 'I' => set rest; flagsFrom fuel { f with ignoreCase := true }
        | 'm' => set rest; flagsFrom fuel f
        | 'M' => set rest; flagsFrom fuel f
        | 'w' =>
          let path := (rest.dropWhile isBlank).takeWhile (· ≠ '\n')
          set (rest.dropWhile (· ≠ '\n'))
          return { f with file := some (String.ofList path) }
        | _ =>
          if ";\n\x7d \t#".toList.contains c then return f
          set rest
          refuse "unknown option to \x60s'"

/-- The address that comes next. -/
def address? (extended : Bool) : Reader (Option Address) := do
  match ← get with
  | [] => return none
  | c :: rest =>
    if c.isDigit then
      let n ← number
      if ← accept '~' then return some (.steps n (← number)) else return some (.line n)
    else if c = '$' then
      set rest
      return some .last
    else if c = '/' ∨ c = '\\' then
      let (mark, rest) : Char × List Char :=
        match c, rest with
        | '\\', d :: rest => (d, rest)
        | _, _ => ('/', rest)
      set rest
      let text ← upTo mark true "unterminated address regex"
      let r ← expression extended text
      if ← accept 'I' then return some (.describes r true) else return some (.describes r false)
    else return none

/-- The second address of a range. -/
def secondAddress (extended : Bool) : Reader Address := do
  skip isBlank
  if ← accept '+' then return .more (← number)
  else if ← accept '~' then return .multiple (← number)
  else
    match ← address? extended with
    | some a => return a
    | none => refuse "unexpected \x60,'"

/-- The text of a command that writes one; `fuel` bounds its length. -/
def textFrom : Nat → List Char → List Char × List Char
  | 0, cs => ([], cs)
  | _, [] => ([], [])
  | fuel + 1, '\\' :: c :: rest =>
    let (text, rest) := textFrom fuel rest
    (c :: text, rest)
  | _, '\n' :: rest => ([], rest)
  | fuel + 1, c :: rest =>
    let (text, rest) := textFrom fuel rest
    (c :: text, rest)

/-- A name up to the end of a command. -/
def nameBehind (ends : List Char) : Reader String := do
  skip isBlank
  let name := (← get).takeWhile fun c => !ends.contains c
  set ((← get).drop name.length)
  return String.ofList (name.reverse.dropWhile isBlank).reverse

/-- What the command with a letter does. -/
def actionOf (extended : Bool) (c : Char) : Reader Action := do
  let writesText : Reader Action := do
    skip isBlank
    match ← get with
    | [] => refuse ("expected \\ after \x60a', \x60c' or \x60i'")
    | cs =>
      let cs := match cs with
        | '\\' :: rest =>
          match rest.dropWhile isBlank with
          | '\n' :: rest => rest
          | _ => rest
        | _ => cs
      let (text, rest) := textFrom (cs.length + 1) cs
      set rest
      return .text c (String.ofList text ++ "\n")
  if "dDpPnNhHgGxl=Fz".toList.contains c then
    if c = 'l' then
      skip isBlank
      let _ ← number
    return .letter c
  match c with
  | 's' =>
    match ← get with
    | [] => refuse "unterminated \x60s' command"
    | mark :: rest =>
      set rest
      let text ← upTo mark true "unterminated \x60s' command"
      let other ← upTo mark false "unterminated \x60s' command"
      let flags ← flagsFrom ((← get).length + 1) {}
      let r ← expression extended text
      return .replace r (parts other) flags
  | 'y' =>
    match ← get with
    | [] => refuse "unterminated \x60y' command"
    | mark :: rest =>
      set rest
      let from? ← upTo mark false "unterminated \x60y' command"
      let into? ← upTo mark false "unterminated \x60y' command"
      let chars (cs : List Char) : List Char := (parts cs).filterMap fun
        | .char c => some c
        | .group _ => some '&'
        | .case c => some c
      if (chars from?).length ≠ (chars into?).length then
        refuse "strings for \x60y' command are different lengths"
      return .change ((chars from?).zip (chars into?))
  | 'a' => writesText
  | 'i' => writesText
  | 'c' => writesText
  | 'b' => return .jump c (← nameBehind [';', '\n', '\x7d'])
  | 't' => return .jump c (← nameBehind [';', '\n', '\x7d'])
  | 'T' => return .jump c (← nameBehind [';', '\n', '\x7d'])
  | ':' => return .label (← nameBehind [';', '\n'])
  | 'r' => return .file c (← nameBehind ['\n'])
  | 'w' => return .file c (← nameBehind ['\n'])
  | 'q' =>
    skip isBlank
    return .quit c (← number)
  | 'Q' =>
    skip isBlank
    return .quit c (← number)
  | '\x7b' => return .opening
  | '\x7d' => return .closing
  | _ => refuse ("unknown command: \x60" ++ String.singleton c ++ "'")

/-- Reads commands; `fuel` bounds their number, and `depth` is how many groups are open. -/
def commandsFrom (extended : Bool) : Nat → Nat → Reader (List Command)
  | 0, _ => return []
  | fuel + 1, depth => do
    skip fun c => isBlank c || c == '\n' || c == ';'
    if ← accept '#' then
      skip (· ≠ '\n')
      return ← commandsFrom extended fuel depth
    match ← get with
    | [] =>
      if 0 < depth then throw ("unmatched \x60\x7b'", 0)
      return []
    | _ =>
      let first ← address? extended
      skip isBlank
      let addresses ← match first with
        | none => pure []
        | some a =>
          if ← accept ',' then pure [a, ← secondAddress extended] else pure [a]
      skip isBlank
      let inverted ← accept '!'
      skip fun c => isBlank c || c == '!'
      match ← get with
      | [] => refuse "missing command"
      | c :: rest =>
        set rest
        if c = '\x7d' ∧ depth = 0 then refuse "unexpected \x60\x7d'"
        let action ← actionOf extended c
        let command : Command := { addresses, inverted, action }
        match action with
        | .opening => return command :: (← commandsFrom extended fuel (depth + 1))
        | .text .. => return command :: (← commandsFrom extended fuel depth)
        | _ =>
          skip isBlank
          match ← get with
          | [] => pure ()
          | d :: rest =>
            if !";\n\x7d#".toList.contains d then
              set rest
              refuse "extra characters after command"
          let depth := if action matches .closing then depth - 1 else depth
          return command :: (← commandsFrom extended fuel depth)

/-- The commands that a text spells, or why it spells none and behind how many characters. -/
def Command.parse (extended : Bool) (text : String) : Except (String × Nat) (List Command) :=
  match (commandsFrom extended (text.length + 1) 0).run text.toList with
  | .ok (commands, _) => .ok commands
  | .error (message, left) =>
    .error (message, if message.startsWith "unmatched \x60" then 0 else text.length - left)

/-! ### Going through lines -/

/-- What is written, and where to. -/
structure Written where
  /-- The file, or none for the output. -/
  file : Option String
  /-- The text. -/
  text : String

/-- Where one is. -/
structure State where
  /-- The text that is changed. -/
  space : List Char := []
  /-- The text that is kept. -/
  hold : List Char := []
  /-- The number of the line. -/
  number : Nat := 0
  /-- The lines that are left. -/
  lines : List (List Char)
  /-- Whether the line has an end. -/
  ended : Bool := true
  /-- What is written behind the line. -/
  behind : List Written := []
  /-- What has been written, the last first. -/
  written : List Written := []
  /-- Whether something has been replaced since the line was read. -/
  replaced : Bool := false
  /-- The expression used last. -/
  lastUsed : Option Regex := none
  /-- The ranges that one is in, by the place of their command, and the line where they end. -/
  ranges : List (Nat × Option Nat) := []
  /-- The status, if one has ended. -/
  status : Option Nat := none

/-- Writes a text. -/
def State.write (s : State) (text : String) : State :=
  { s with written := ⟨none, text⟩ :: s.written }

/-- Writes the text that is changed, with the end that the line has. -/
def State.writeSpace (s : State) : State :=
  s.write (String.ofList s.space ++ if s.ended then "\n" else "")

/-- Writes what is to be written behind the line. -/
def State.flush (s : State) : State :=
  { s with written := s.behind.reverse ++ s.written, behind := [] }

/-- Reads the next line into the text, or behind it. -/
def State.nextLine (s : State) (behind : Bool) : State :=
  match s.lines with
  | [] => s
  | line :: lines =>
    let body := Utility.bodyOf line
    { s with
      space := if behind then s.space ++ '\n' :: body else body
      number := s.number + 1, lines
      ended := line.getLast? == some '\n' || !lines.isEmpty }

/-- Whether a line is the one that an address is for. -/
def Address.holds (s : State) : Address → Bool
  | .line n => s.number == n
  | .last => s.lines.isEmpty
  | .steps first step =>
    if step = 0 then s.number == first
    else first ≤ s.number && (s.number - first) % step == 0
  | .describes r ignoreCase =>
    ((r.or s.lastUsed).bind fun r => r.find? ignoreCase s.space).isSome
  | _ => false

/-- The state in which an address has been looked at. -/
def State.using (s : State) : Address → State
  | .describes (some r) _ => { s with lastUsed := some r }
  | _ => s

/-- Whether a command is for the line, and the state behind that. -/
def Command.isFor (c : Command) (place : Nat) (s : State) : Bool × State :=
  let (yes, s) : Bool × State :=
    match c.addresses with
    | [] => (true, s)
    | [a] => (a.holds s, s.using a)
    | a :: b :: _ =>
      let without := { s with ranges := s.ranges.filter (·.1 ≠ place) }
      let isFresh := (match a with
        | .line 0 => s.number == 1
        | _ => false)
      match s.ranges.lookup place, isFresh with
      | some (some last), _ =>
        if s.number < last then (true, s)
        else (s.number == last || a.holds s, without)
      | some none, _ => (true, if b.holds s then without.using b else s.using b)
      | none, true => (true, if b.holds s then s.using b
          else { s with ranges := (place, none) :: s.ranges }.using b)
      | none, false =>
        if !a.holds s then (false, s.using a)
        else
          let s := s.using a
          let upTo (last : Nat) : Bool × State :=
            (true,
              if s.number < last then { s with ranges := (place, some last) :: s.ranges } else s)
          match b with
          | .line n => upTo n
          | .more n => upTo (s.number + n)
          | .multiple n => upTo (if n = 0 then s.number else (s.number + n - 1) / n * n)
          | .last =>
            (true, if s.lines.isEmpty then s else { s with ranges := (place, none) :: s.ranges })
          | _ => (true, { s with ranges := (place, none) :: s.ranges })
  (yes != c.inverted, s)

/-- What something is replaced by; `mode` is the case of what follows, and `one` that of the next
character. -/
def replacement (m : Regex.Match) : Option Char → Option Char → List Part → List Char
  | _, _, [] => []
  | mode, one, part :: rest =>
    let cased (mode one : Option Char) (cs : List Char) : List Char :=
      let all := match mode with
        | some 'U' => cs.map Char.toUpper
        | some 'L' => cs.map Char.toLower
        | _ => cs
      match one, all with
      | some 'u', c :: cs => c.toUpper :: cs
      | some 'l', c :: cs => c.toLower :: cs
      | _, cs => cs
    match part with
    | .case c =>
      if c = 'u' ∨ c = 'l' then replacement m mode (some c) rest
      else replacement m (if c = 'E' then none else some c) one rest
    | .char c => cased mode one [c] ++ replacement m mode none rest
    | .group n =>
      let text := if n = 0 then m.text else (m.groups.lookup n).getD []
      cased mode one text ++ replacement m mode (if text = [] then one else none) rest

/-- A text with what an expression describes replaced, from one time on; `fuel` bounds how often one
looks, and `seen` is how often something has been found. -/
def replaceFrom (r : Regex) (parts : List Part) (f : Flags) :
    Nat → Nat → Bool → List Char → List Char → Option (List Char)
  | 0, _, _, _, _ => none
  | fuel + 1, seen, afterMatch, front, rest =>
    match r.findFrom f.ignoreCase front.reverse front.getLast? rest with
    | none => none
    | some m =>
      let between := m.front.drop front.length
      let step (done : List Char) : Option (List Char) :=
        match m.text, m.rest with
        | [], [] => some done
        | [], c :: rest =>
          let more := replaceFrom r parts f fuel (seen + 1) false (m.front ++ [c]) rest
          some (done ++ c :: more.getD rest)
        | _, rest =>
          let more := replaceFrom r parts f fuel (seen + 1) true (m.front ++ m.text) rest
          some (done ++ more.getD rest)
      if m.text.isEmpty && afterMatch && between.isEmpty then
        match m.rest with
        | [] => none
        | c :: rest =>
          (replaceFrom r parts f fuel seen false (m.front ++ [c]) rest).map (c :: ·)
      else if seen + 1 < f.time then
        match m.text, m.rest with
        | [], [] => none
        | [], c :: rest =>
          (replaceFrom r parts f fuel (seen + 1) false (m.front ++ [c]) rest).map fun t =>
            between ++ c :: t
        | _, rest =>
          (replaceFrom r parts f fuel (seen + 1) true (m.front ++ m.text) rest).map fun t =>
            between ++ m.text ++ t
      else
        let done := between ++ replacement m none none parts
        if f.all then step done else some (done ++ m.rest)

/-- A text as `l` shows it. -/
def shown (cs : List Char) : String :=
  let octal (n : Nat) : List Char :=
    ['\\', Char.ofNat (48 + n / 64 % 8), Char.ofNat (48 + n / 8 % 8), Char.ofNat (48 + n % 8)]
  let one (c : Char) : List Char :=
    match c with
    | '\\' => ['\\', '\\']
    | '\x07' => ['\\', 'a']
    | '\x08' => ['\\', 'b']
    | '\x0c' => ['\\', 'f']
    | '\n' => ['\\', 'n']
    | '\r' => ['\\', 'r']
    | '\t' => ['\\', 't']
    | '\x0b' => ['\\', 'v']
    | c => if 32 ≤ c.toNat ∧ c.toNat < 127 then [c] else octal c.toNat
  let step (state : List Char × Nat) (c : Char) : List Char × Nat :=
    let (text, column) := state
    let piece := one c
    if 69 < column + piece.length then (text ++ ['\\', '\n'] ++ piece, piece.length)
    else (text ++ piece, column + piece.length)
  String.ofList ((cs.foldl step ([], 0)).1 ++ ['$', '\n'])

/-- The place behind the group of commands that begins at a place. -/
def behindGroup (commands : Array Command) : Nat → Nat → Nat → Nat
  | 0, place, _ => place
  | fuel + 1, place, depth =>
    match (commands[place]?).map Command.action with
    | none => place
    | some .opening => behindGroup commands fuel (place + 1) (depth + 1)
    | some .closing =>
      if depth ≤ 1 then place + 1 else behindGroup commands fuel (place + 1) (depth - 1)
    | some _ => behindGroup commands fuel (place + 1) depth

/-- What comes behind a command. -/
inductive Step where
  /-- The command at a place. -/
  | goTo (place : Nat)
  /-- The end of the script for this line, and whether the text is written. -/
  | finish (writes : Bool)
  /-- The script once more for what is left of the text. -/
  | again

/-- Does what a letter says. -/
def letterStep (quiet : Bool) (place : Nat) (s : State) (c : Char) : State × Step :=
  let next := Step.goTo (place + 1)
  let front := s.space.takeWhile (· ≠ '\n')
  match c with
  | 'd' => (s, .finish false)
  | 'D' =>
    if s.space.contains '\n' then ({ s with space := s.space.drop (front.length + 1) }, .again)
    else (s, .finish false)
  | 'p' => (s.writeSpace, next)
  | 'P' => (s.write (String.ofList front ++ "\n"), next)
  | 'n' =>
    if s.lines.isEmpty then ({ s with status := some 0 }, .finish true)
    else ((if quiet then s else s.writeSpace).flush.nextLine false, next)
  | 'N' =>
    if s.lines.isEmpty then ({ s with status := some 0 }, .finish true)
    else (s.flush.nextLine true, next)
  | 'h' => ({ s with hold := s.space }, next)
  | 'H' => ({ s with hold := s.hold ++ '\n' :: s.space }, next)
  | 'g' => ({ s with space := s.hold }, next)
  | 'G' => ({ s with space := s.space ++ '\n' :: s.hold }, next)
  | 'x' => ({ s with space := s.hold, hold := s.space }, next)
  | 'z' => ({ s with space := [] }, next)
  | 'F' => (s.write "-\n", next)
  | 'l' => (s.write (shown s.space), next)
  | _ => (s.write (toString s.number ++ "\n"), next)

/-- Carries out the command at a place. -/
def Command.step (quiet : Bool) (commands : Array Command) (place : Nat) (c : Command)
    (s : State) : State × Step :=
  let next := Step.goTo (place + 1)
  let (yes, s) := c.isFor place s
  if !yes then
    match c.action with
    | .opening => (s, .goTo (behindGroup commands commands.size place 0))
    | _ => (s, next)
  else
    match c.action with
    | .opening => (s, next)
    | .closing => (s, next)
    | .label _ => (s, next)
    | .letter l => letterStep quiet place s l
    | .change pairs => ({ s with space := s.space.map fun c => (pairs.lookup c).getD c }, next)
    | .replace r parts f =>
      match r.or s.lastUsed with
      | none => (s, next)
      | some r =>
        let s := { s with lastUsed := some r }
        match replaceFrom r parts f (s.space.length + 2) 0 false [] s.space with
        | none => (s, next)
        | some space =>
          let s := { s with space, replaced := true }
          let s := if f.prints then s.writeSpace else s
          let s := match f.file with
            | some path =>
              { s with written := ⟨some path, String.ofList space ++ "\n"⟩ :: s.written }
            | none => s
          (s, next)
    | .text 'a' text => ({ s with behind := s.behind ++ [⟨none, text⟩] }, next)
    | .text 'i' text => (s.write text, next)
    | .text _ text =>
      let inRange := c.addresses.length == 2 && !c.inverted && (s.ranges.lookup place).isSome
      (if inRange then s else s.write text, .finish false)
    | .jump k label =>
      let target := if label.isEmpty then commands.size
        else (commands.findIdx? fun c => match c.action with
          | .label name => name == label
          | _ => false).getD commands.size
      match k with
      | 'b' => (s, .goTo target)
      | 't' =>
        if s.replaced then ({ s with replaced := false }, .goTo target) else (s, next)
      | _ => if s.replaced then ({ s with replaced := false }, next) else (s, .goTo target)
    | .file 'w' path =>
      ({ s with written := ⟨some path, String.ofList s.space ++ "\n"⟩ :: s.written }, next)
    | .file _ path => ({ s with behind := s.behind ++ [⟨some path, ""⟩] }, next)
    | .quit k status => ({ s with status := some status }, .finish (k = 'q'))

/-- Goes through the script for one line; `fuel` bounds the number of commands. -/
def oneLine (quiet : Bool) (commands : Array Command) : Nat → Nat → State → State
  | 0, _, s => { s with status := some 1 }
  | fuel + 1, place, s =>
    let finished (writes : Bool) (s : State) : State :=
      (if writes && !quiet then s.writeSpace else s).flush
    match commands[place]? with
    | none => finished true s
    | some c =>
      match c.step quiet commands place s with
      | (s, .goTo place) => oneLine quiet commands fuel place s
      | (s, .finish writes) => finished writes s
      | (s, .again) => oneLine quiet commands fuel 0 s.flush

/-- How many commands are carried out for one line. -/
def stepLimit : Nat := 20000

/-- Goes through lines; `fuel` bounds their number. -/
def runFrom (quiet : Bool) (commands : Array Command) : Nat → State → State
  | 0, s => s
  | fuel + 1, s =>
    if s.lines.isEmpty || s.status.isSome then s
    else
      let s := { s.nextLine false with replaced := false }
      runFrom quiet commands fuel (oneLine quiet commands stepLimit 0 s)

/-- What is written if a script goes through lines, and the status. -/
def run (quiet : Bool) (commands : Array Command) (lines : List (List Char)) :
    List Written × Nat :=
  let s := runFrom quiet commands (lines.length + 1) { lines }
  (s.written.reverse, s.status.getD 0)

end Edit

namespace Utility

/-- The label that a command goes to and that is not there. -/
def missingLabel? (commands : List Edit.Command) : Option String :=
  let names := commands.filterMap fun c => match c.action with
    | .label name => some name
    | _ => none
  commands.findSome? fun c => match c.action with
    | .jump _ label => if label.isEmpty || names.contains label then none else some label
    | _ => none

/-- Writes what a script has written, `target` being the file that stands for the output. -/
def deliver (target : Option String) (written : List Edit.Written) : Job Nat := do
  let output :=
    "".intercalate (written.filterMap fun w => if w.file.isNone then some w.text else none)
  let append (path text : String) : Job (Except FileFault Unit) :=
    Job.changeFiles fun cwd files => do
      let path : Path := ⟨path⟩
      let before := ((files.read cwd path).toOption).getD []
      files.write cwd path (before ++ Octets.toBytes text)
  if let some path := target then
    let _ ← Job.changeFiles fun cwd files =>
      files.write cwd ⟨path⟩ (Octets.toBytes output)
  let mut status := 0
  for w in written do
    match w.file with
    | none => if target.isNone then status := max status (← Job.print 0 w.text)
    | some path =>
      if w.text.isEmpty then
        if let .ok text ← Job.readFile path none then
          if target.isNone then status := max status (← Job.print 0 text)
      else if path = "/dev/stdout" then status := max status (← Job.print 0 w.text)
      else
        let _ ← append path w.text
  return status

/-- Edits lines. -/
def sed : Job Nat := do
  let flag (c : Char) (names : List String) : Choice :=
    { key := String.singleton c, letters := [c], names }
  let value (c : Char) (names : List String) : Choice :=
    { key := String.singleton c, letters := [c], names, value := .required }
  let known : List Choice :=
    [flag 'n' ["quiet", "silent"], value 'e' ["expression"], value 'f' ["file"],
      { key := "E", letters := ['E', 'r'], names := ["regexp-extended"] }, flag 's' ["separate"],
      flag 'u' ["unbuffered"], value 'l' ["line-length"],
      { key := "i", letters := ['i'], names := ["in-place"], value := .optional }]
  let fails (message : String) : Job Nat := do
    say message
    return 1
  match readOptions known false (← read).arguments with
  | .error message => fails message
  | .ok (given, operands) =>
    let mut scripts : List String := []
    for (key, text) in given do
      if key = "e" then scripts := scripts ++ [text]
      if key = "f" then
        match ← contentOf text with
        | .ok content =>
          scripts := scripts ++
            [if content.endsWith "\n" then (content.dropEnd 1).toString else content]
        | .error fault => return ← fails ("couldn't open file " ++ text ++ ": " ++ fault.reason)
    let isGiven := has given "e" || has given "f"
    if !isGiven && operands.isEmpty then
      return ← fails "no script specified"
    let script := if isGiven then "\n".intercalate scripts else (operands.head?).getD ""
    let operands := if isGiven then operands else operands.drop 1
    match Edit.Command.parse (has given "E") script with
    | .error (message, place) =>
      fails ("-e expression #1, char " ++ toString place ++ ": " ++ message)
    | .ok commands =>
      if let some label := missingLabel? commands then
        return ← fails ("can't find label for jump to \x60" ++ label ++ "'")
      let quiet := has given "n" || script.startsWith "#n\n"
      let mut status := 0
      let mut texts : List (String × String) := []
      for operand in orInput operands do
        match ← contentOf operand with
        | .ok text => texts := texts ++ [(operand, text)]
        | .error fault =>
          if lacksInput operand fault then
            say ("read error on stdin: " ++ fault.reason)
            return 4
          else if fault = .isDirectory then
            say (if has given "i" then "couldn't edit " ++ operand ++ ": not a regular file"
              else "couldn't read " ++ operand ++ ": " ++ fault.reason)
            status := if has given "i" then 4 else 2
          else
            say ("can't read " ++ operand ++ ": " ++ fault.reason)
            status := 2
      let separate := has given "s" || has given "i"
      let groups : List (Option String × List (List Char)) :=
        if separate then
          texts.map fun (name, text) => (if has given "i" then some name else none,
            linesOf text.toList)
        else [(none, texts.flatMap fun (_, text) => linesOf text.toList)]
      for (target, lines) in groups do
        let (written, code) := Edit.run quiet commands.toArray lines
        let failed ← deliver target written
        status := max status (max code failed)
      return status

end Utility

end ModuleBuild
