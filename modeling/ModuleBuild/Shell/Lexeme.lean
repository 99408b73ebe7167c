import ModuleBuild.Shell.Source

/-!
# The words and operators of a script

Blanks stand between words. A backslash takes the meaning away from the next character or joins two
lines, and so do quotes, of which the double ones leave a meaning to the dollar sign.

## Main definitions

* `Shell.Context` — where a part of a word stands
* `Shell.parts` — the parts of a word up to the end of a context
* `Shell.readToken` — the next piece of a script

## Implementation notes

The commands whose output is put into a word are read by `commands`, a reader that is given.
-/

namespace ModuleBuild

namespace Shell

/-- Where a part of a word stands. -/
inductive Context where
  /-- Outside of quotes and braces. -/
  | bare
  /-- In double quotes. -/
  | quotes
  /-- In the braces of a parameter, which may stand in quotes. -/
  | braces (quoted : Bool)
  /-- In a sum, inside of some parentheses. -/
  | sum (depth : Nat)
  /-- In the text of a redirection. -/
  | text

namespace Context

/-- Whether quotes and blanks have no meaning of their own here. -/
def isQuoted : Context → Bool
  | bare => false
  | braces quoted => quoted
  | _ => true

/-- Whether a backslash takes the meaning of a character away. -/
def escapes : Context → Char → Bool
  | quotes, c => c == '$' || c == '"' || c == '\\' || c == '\x60'
  | braces true, c => c == '$' || c == '"' || c == '\\' || c == '\x60' || c == '\x7d'
  | sum _, c => c == '$' || c == '"' || c == '\\' || c == '\x60'
  | text, c => c == '$' || c == '\\' || c == '\x60'
  | _, _ => true

/-- What is said where a script ends inside of a context. -/
def unfinished? : Context → Option String
  | bare => none
  | text => none
  | quotes => some "Unterminated quoted string"
  | braces true => some "Unterminated quoted string"
  | braces false => some "Missing '\x7d'"
  | sum _ => some "Missing '))'"

end Context

/-- A character that ends a word. -/
def endsWord (c : Char) : Bool :=
  c == ' ' || c == '\t' || c == '\n' || c == ';' || c == '&' || c == '|' || c == '<' || c == '>' ||
    c == '(' || c == ')'

/-- Whether a character always stands for itself. -/
def isOrdinary (bare : Bool) (c : Char) : Bool :=
  !(c == '\\' || c == '$' || c == '"' || c == '\x27' || c == '\x60' || c == '\x7d' || c == '(' ||
    c == ')' || c == '\n' || (bare && endsWord c))

/-- A parameter with a name of one character that is no letter. -/
def isSpecial (c : Char) : Bool :=
  c.isDigit || c == '@' || c == '*' || c == '#' || c == '?' || c == '$' || c == '!' || c == '-'

/-- Characters as parts of a word. -/
def literal (quoted : Bool) (cs : List Char) : Word := cs.map (Part.char · quoted)

/-- Whether a word in quotes stands for all arguments and nothing else, so that it may be no text
at all. -/
def isArguments : Word → Bool
  | [.parameter "@" _ .none []] => true
  | _ => false

/-! ### Parameters in braces -/

/-- The name of a parameter in braces, what is left behind it, and whether only its length is
meant. -/
def bracedName? (cs : List Char) : Option (String × List Char × Bool) :=
  let name? (cs : List Char) : Option (String × List Char) :=
    match cs with
    | [] => none
    | c :: rest =>
      if beginsName c then some (String.ofList (cs.takeWhile inName), cs.dropWhile inName)
      else if c.isDigit then
        some (String.ofList (cs.takeWhile Char.isDigit), cs.dropWhile Char.isDigit)
      else if isSpecial c then some (String.singleton c, rest)
      else none
  let length? : Option (String × List Char × Bool) :=
    match cs with
    | '#' :: c :: rest =>
      if beginsName c || c.isDigit then (name? (c :: rest)).map fun (n, r) => (n, r, true)
      else if isSpecial c && rest.head? == some '\x7d' then
        some (String.singleton c, rest, true)
      else none
    | _ => none
  length?.or ((name? cs).map fun (n, r) => (n, r, false))

/-- What the braces of a parameter say after its name, and the rest from its word on. -/
def changeAt (cs : List Char) : Change × List Char :=
  let operation? (orEmpty : Bool) : Char → Option Change
    | '-' => some (.otherwise orEmpty)
    | '=' => some (.assign orEmpty)
    | '?' => some (.require orEmpty)
    | '+' => some (.instead orEmpty)
    | _ => none
  match cs with
  | '#' :: '#' :: rest => (.dropFront true, rest)
  | '#' :: rest => (.dropFront false, rest)
  | '%' :: '%' :: rest => (.dropEnd true, rest)
  | '%' :: rest => (.dropEnd false, rest)
  | ':' :: c :: rest => ((operation? true c).getD .unknown, rest)
  | c :: rest => ((operation? false c).getD .unknown, rest)
  | [] => (.unknown, [])

/-! ### Words -/

/-- The text of commands between back quotes, behind the first of them, and what is left. -/
def betweenBackQuotes (inQuotes : Bool) : List Char → Option (List Char × List Char)
  | [] => none
  | '\x60' :: rest => some ([], rest)
  | '\\' :: '\n' :: rest => betweenBackQuotes inQuotes rest
  | '\\' :: c :: rest =>
    let kept := !(c == '\\' || c == '\x60' || c == '$' || (inQuotes && c == '"'))
    (betweenBackQuotes inQuotes rest).map fun (text, rest) =>
      (if kept then '\\' :: c :: text else c :: text, rest)
  | c :: rest => (betweenBackQuotes inQuotes rest).map fun (text, rest) => (c :: text, rest)

/-- Commands between back quotes, behind the first of them. -/
def backQuoted (commands : Reader Command) (context : Context) : Reader Part := do
  let s ← get
  match betweenBackQuotes context.isQuoted s.rest with
  | none =>
    modify fun s => { s with line := s.line + s.rest.count '\n' }
    Reader.refuse "EOF in backquote substitution"
  | some (text, rest) =>
    let lines := (s.rest.take (s.rest.length - rest.length)).count '\n'
    match commands.run { s.withText text 1 with isWhole := true } with
    | .error flaw => throw flaw
    | .ok (command, _) =>
      set { s with rest, line := s.line + lines }
      return .output context.isQuoted command

/-- A reader of the parts up to the end of a context, after those that have been read, the last one
first. -/
abbrev PartReader := Context → Word → Reader Word

/-- A parameter in braces, behind the first of them. -/
def braced (parts : PartReader) (context : Context) : Reader Part := do
  let s ← get
  let quoted := context.isQuoted
  match bracedName? s.rest with
  | none =>
    let _ ← parts (.braces quoted) []
    return .parameter "" quoted .unknown []
  | some (name, '\x7d' :: rest, isLength) =>
    Reader.moveTo rest
    return .parameter name quoted (if isLength then .length else .none) []
  | some (name, rest, isLength) =>
    if isLength then
      Reader.moveTo rest
      let _ ← parts (.braces quoted) []
      return .parameter name quoted .unknown []
    let (change, rest) := changeAt rest
    Reader.moveTo rest
    let word ← parts (.braces (quoted && !change.takesPattern)) []
    return .parameter name quoted change word

/-- What a dollar sign asks for, behind that sign. -/
def dollar (commands : Reader Command) (parts : PartReader) (context : Context) :
    Reader Part := do
  match (← get).rest with
  | '(' :: '(' :: rest =>
    Reader.moveTo rest
    return .sum context.isQuoted (← parts (.sum 0) [])
  | '(' :: rest =>
    Reader.moveTo rest
    return .output context.isQuoted (← commands)
  | '\x7b' :: rest =>
    Reader.moveTo rest
    braced parts context
  | c :: rest =>
    if beginsName c then
      let name ← Reader.takeRun inName
      return .parameter (String.ofList name) context.isQuoted .none []
    else if isSpecial c then
      Reader.moveTo rest
      return .parameter (String.singleton c) context.isQuoted .none []
    else return .char '$' context.isQuoted
  | [] => return .char '$' context.isQuoted

/-- The parts after a backslash, the last one first. -/
def escaped (context : Context) : Reader Word := do
  match (← get).rest with
  | [] => return [.char '\\' true]
  | '\n' :: rest =>
    Reader.moveTo rest
    Reader.endLine
    return []
  | c :: rest =>
    Reader.moveTo rest
    return if context.escapes c then [.char c true] else [.char c true, .char '\\' true]

/-- The parts between single quotes, behind the first of them, the last one first. -/
def singleQuoted : Reader Word := do
  let s ← get
  let inner := s.rest.takeWhile (· ≠ '\x27')
  modify fun s => { s with line := s.line + inner.count '\n' }
  match s.rest.dropWhile (· ≠ '\x27') with
  | [] => Reader.refuse "Unterminated quoted string"
  | _ :: rest =>
    Reader.moveTo rest
    return (literal true inner).reverse ++ [.quotes]

/-- The parts up to the end of a context, after those that have been read, the last one first;
`fuel` bounds their number. -/
def parts (commands : Reader Command) : Nat → PartReader
  | 0, _, _ => Reader.refuse "Unterminated quoted string"
  | fuel + 1, context, before => do
    let isBare := context matches .bare
    let run ← Reader.takeRun (isOrdinary isBare)
    let before := (literal context.isQuoted run).reverse ++ before
    match (← get).rest with
    | [] =>
      match context.unfinished? with
      | some message => Reader.refuse message
      | none => return before.reverse
    | c :: rest =>
      let skip : Reader Unit := Reader.moveTo rest
      let keep : Reader Word := do
        skip
        parts commands fuel context (.char c context.isQuoted :: before)
      if isBare && endsWord c then return before.reverse
      else if c = '\n' then
        skip
        Reader.endLine
        parts commands fuel context (.char c context.isQuoted :: before)
      else if c = '\\' then
        skip
        let more ← escaped context
        parts commands fuel context (more ++ before)
      else if c = '$' then
        skip
        let part ← dollar commands (parts commands fuel) context
        parts commands fuel context (part :: before)
      else if c = '\x60' then
        skip
        let part ← backQuoted commands context
        parts commands fuel context (part :: before)
      else
        match c, context with
        | '"', .quotes =>
          skip
          return before.reverse
        | '"', .text => keep
        | '"', .sum _ => keep
        | '"', _ =>
          skip
          let inner ← parts commands fuel .quotes []
          let anchor : Word := if isArguments inner then [] else [.quotes]
          parts commands fuel context (inner.reverse ++ anchor ++ before)
        | '\x27', _ =>
          if context.isQuoted then keep
          else
            skip
            let inner ← singleQuoted
            parts commands fuel context (inner ++ before)
        | '\x7d', .braces _ =>
          skip
          return before.reverse
        | '(', .sum depth =>
          skip
          parts commands fuel (.sum (depth + 1)) (.char c true :: before)
        | ')', .sum (depth + 1) =>
          skip
          parts commands fuel (.sum depth) (.char c true :: before)
        | ')', .sum 0 =>
          match rest with
          | ')' :: rest =>
            Reader.moveTo rest
            return before.reverse
          | _ => keep
        | _, _ => keep

/-- The word at the front. -/
def readWord (commands : Reader Command) : Reader Word := do
  parts commands (← get).limit .bare []

/-! ### Operators -/

/-- The sign of a redirection behind the number of its stream. -/
def redirectAt? : List Char → Option (Direction × List Char)
  | '>' :: '>' :: rest => some (.file .append, rest)
  | '>' :: '&' :: rest => some (.copy, rest)
  | '>' :: '|' :: rest => some (.file .write, rest)
  | '>' :: rest => some (.file .create, rest)
  | '<' :: '<' :: '-' :: rest => some (.text true, rest)
  | '<' :: '<' :: rest => some (.text false, rest)
  | '<' :: '&' :: rest => some (.copy, rest)
  | '<' :: '>' :: rest => some (.file .readWrite, rest)
  | '<' :: rest => some (.file .read, rest)
  | _ => none

/-- The sign of a redirection, which may begin with the number of its stream. -/
def redirection? (cs : List Char) : Option (Token × List Char) :=
  match cs with
  | c :: rest =>
    if c.isDigit then
      (redirectAt? rest).map fun (d, rest) => (.redirect (c.toNat - 48) d, rest)
    else (redirectAt? cs).map fun (d, rest) => (.redirect (if c = '<' then 0 else 1) d, rest)
  | [] => none

/-- An operator at the front. -/
def operator? : List Char → Option (Token × List Char)
  | ';' :: ';' :: rest => some (.operator ";;", rest)
  | ';' :: rest => some (.operator ";", rest)
  | '&' :: '&' :: rest => some (.operator "&&", rest)
  | '&' :: rest => some (.operator "&", rest)
  | '|' :: '|' :: rest => some (.operator "||", rest)
  | '|' :: rest => some (.operator "|", rest)
  | '(' :: rest => some (.operator "(", rest)
  | ')' :: rest => some (.operator ")", rest)
  | _ => none

/-- The next piece of a script. -/
def readToken (commands : Reader Command) : Reader Token := do
  Reader.skipBlanks
  let s ← get
  match s.rest with
  | [] => return .finished
  | '\n' :: rest =>
    Reader.moveTo rest
    Reader.endLine
    return .newline
  | cs =>
    match (redirection? cs).or (operator? cs) with
    | some (token, rest) =>
      Reader.moveTo rest
      return token
    | none => return .word (← readWord commands)

/-! ### Texts below a line -/

/-- The word that ends a text, whether anything in it is quoted, and what is left. -/
def delimiterAt : List Char → List Char × Bool × List Char
  | [] => ([], false, [])
  | '\\' :: c :: rest =>
    let (word, _, rest) := delimiterAt rest
    (c :: word, true, rest)
  | '\x27' :: rest =>
    let (word, _, after) := delimiterAt ((rest.dropWhile (· ≠ '\x27')).drop 1)
    (rest.takeWhile (· ≠ '\x27') ++ word, true, after)
  | '"' :: rest =>
    let (word, _, after) := delimiterAt ((rest.dropWhile (· ≠ '"')).drop 1)
    (rest.takeWhile (· ≠ '"') ++ word, true, after)
  | c :: rest =>
    if endsWord c then ([], false, c :: rest)
    else
      let (word, quoted, rest) := delimiterAt rest
      (c :: word, quoted, rest)
termination_by cs => cs.length
decreasing_by
  all_goals
    simp only [List.length_cons, List.length_drop]
    try have := (List.dropWhile_sublist (· ≠ '\x27') (l := rest)).length_le
    try have := (List.dropWhile_sublist (· ≠ '"') (l := rest)).length_le
    omega

/-- The lines of a text up to the one that ends it, the number of all these lines, and what is
below. -/
def linesUpTo (delimiter : List Char) (untabbed : Bool) : List (List Char) →
    List (List Char) × Nat × List (List Char)
  | [] => ([], 0, [])
  | line :: lines =>
    let line := if untabbed then line.dropWhile (· = '\t') else line
    if line = delimiter then ([], 1, lines)
    else
      let (inner, count, rest) := linesUpTo delimiter untabbed lines
      (line :: inner, count + 1, rest)

/-- The text below the line, up to the delimiter that comes next. -/
def readText (commands : Reader Command) (untabbed : Bool) : Reader Word := do
  Reader.skipBlanks
  let s ← get
  let (delimiter, quoted, rest) := delimiterAt s.rest
  if rest.length = s.rest.length then
    let token ← readToken commands
    Reader.refuse (token.shown ++ " unexpected")
  let line := rest.takeWhile (· ≠ '\n')
  let ended := (rest.dropWhile (· ≠ '\n')).drop 1
  let lines := ended.splitOn '\n'
  let unended := ended.getLast?.any (· ≠ '\n')
  let lines := if unended then lines else lines.dropLast
  let (inner, count, after) := linesUpTo delimiter untabbed lines
  let text := inner.flatMap (· ++ ['\n'])
  let text := if unended && after.isEmpty && count = inner.length then text.dropLast else text
  let after := after.flatMap (· ++ ['\n'])
  let after := if unended then after.dropLast else after
  let replaced := s.replaced.map fun r =>
    { r with behind := r.behind - (ended.length - after.length) }
  set { s with rest := line ++ '\n' :: after, below := s.below + count, replaced }
  if quoted then return literal true text
  match (parts commands (text.length + 2) .text []).run (s.withText text (s.line + 1)) with
  | .error flaw => throw flaw
  | .ok (word, _) => return word

end Shell

end ModuleBuild
