/-!
# Regular expressions

A regular expression describes texts by characters, sets, choices and repetitions. Its groups tell
which part of a text each of them has described. Of all the parts that begin at a place the longest
one counts.

## Main definitions

* `Regex` — regular expressions
* `Regex.parse` — the expression that a text spells, in the basic or the extended form
* `Regex.matchAt?` — the longest part of a text at a place that an expression describes
* `Regex.find?` — the first such part
-/

namespace ModuleBuild

/-- A set of characters. -/
inductive CharSet where
  /-- The characters from one to another. -/
  | range (low high : Char)
  /-- The characters that a function picks out. -/
  | picked (p : Char → Bool)

/-- A regular expression. -/
inductive Regex where
  /-- Nothing. -/
  | empty
  /-- A character. -/
  | char (c : Char)
  /-- Any character. -/
  | any
  /-- A character in a set, or outside of it. -/
  | set (outside : Bool) (parts : List CharSet)
  /-- The beginning of the text. -/
  | start
  /-- The end of the text. -/
  | finish
  /-- The place between a part of a word and something else. -/
  | edge (atStart atEnd : Bool)
  /-- A numbered group. -/
  | group (n : Nat) (r : Regex)
  /-- What a group has described. -/
  | same (n : Nat)
  /-- One after the other. -/
  | seq (a b : Regex)
  /-- One or the other. -/
  | alt (a b : Regex)
  /-- So often, or more often up to a limit. -/
  | repeat (r : Regex) (least : Nat) (most : Option Nat)

namespace Regex

/-- What groups have described. -/
abbrev Groups := List (Nat × List Char)

/-- A place in a text: the character in front of it, what is behind it, and what groups have
described. -/
structure Place where
  /-- The character in front. -/
  before : Option Char
  /-- What is behind. -/
  rest : List Char
  /-- What groups have described. -/
  groups : Groups := []

/-- Whether a character belongs to a part of a set. -/
def CharSet.contains (c : Char) : CharSet → Bool
  | .range low high => low ≤ c && c ≤ high
  | .picked p => p c

/-- Whether a character is part of a word. -/
def inWord (c : Char) : Bool := c.isAlphanum || c == '_'

/-- Whether two characters are the same, or the same but for their case. -/
def sameChar (ignoreCase : Bool) (a b : Char) : Bool :=
  a == b || (ignoreCase && a.toLower == b.toLower)

/-- The place behind one character, if it is of a kind. -/
def Place.step (p : Place) (kind : Char → Bool) : List Place :=
  match p.rest with
  | c :: rest => if kind c then [{ p with before := some c, rest }] else []
  | [] => []

/-- The place behind a text, if that comes next. -/
def Place.skip (ignoreCase : Bool) (text : List Char) (p : Place) : List Place :=
  let front := p.rest.take text.length
  let isSame := front.length == text.length &&
    (front.zip text).all fun (a, b) => sameChar ignoreCase a b
  if !isSame then []
  else [{ p with before := text.getLast?.or p.before, rest := p.rest.drop text.length }]

/-- The places behind more repetitions of something, the longest ones first; `fuel` bounds their
number. An empty repetition is not repeated. -/
def repeated (one : Place → List Place) (least : Nat) (most : Option Nat) :
    Nat → Nat → Place → List Place
  | 0, _, p => [p]
  | fuel + 1, count, p =>
    let more :=
      if most.any (· ≤ count) then []
      else (one p).flatMap fun q =>
        if q.rest.length = p.rest.length && least ≤ count then []
        else repeated one least most fuel (count + 1) q
    if least ≤ count then more ++ [p] else more

/-- The places behind the parts of a text at a place that an expression describes. -/
def rests (ignoreCase : Bool) : Regex → Place → List Place
  | empty, p => [p]
  | char c, p => p.step (sameChar ignoreCase c)
  | any, p => p.step fun _ => true
  | set outside parts, p =>
    p.step fun c =>
      let within (c : Char) : Bool := parts.any (CharSet.contains c)
      (within c || (ignoreCase && (within c.toLower || within c.toUpper))) != outside
  | start, p => if p.before.isNone then [p] else []
  | finish, p => if p.rest.isEmpty then [p] else []
  | edge atStart atEnd, p =>
    let left := p.before.any inWord
    let right := p.rest.head?.any inWord
    if (atStart && !left && right) || (atEnd && left && !right) then [p] else []
  | group n r, p =>
    (rests ignoreCase r p).map fun q =>
      let text := p.rest.take (p.rest.length - q.rest.length)
      { q with groups := (n, text) :: q.groups.filter (·.1 ≠ n) }
  | same n, p => p.skip ignoreCase ((p.groups.lookup n).getD [])
  | seq a b, p => (rests ignoreCase a p).flatMap (rests ignoreCase b)
  | alt a b, p => rests ignoreCase a p ++ rests ignoreCase b p
  | .repeat r least most, p =>
    repeated (rests ignoreCase r) least most (p.rest.length + least + 1) 0 p

/-- The first of the places with the least text behind them. -/
def longest? : List Place → Option Place
  | [] => none
  | p :: ps =>
    match longest? ps with
    | some q => if q.rest.length < p.rest.length then some q else some p
    | none => some p

/-- What an expression has described. -/
structure Match where
  /-- What is in front. -/
  front : List Char
  /-- The text. -/
  text : List Char
  /-- What is behind. -/
  rest : List Char
  /-- What groups have described. -/
  groups : Groups

/-- The longest part of a text at a place that an expression describes. -/
def matchAt? (r : Regex) (ignoreCase : Bool) (front : List Char) (before : Option Char)
    (rest : List Char) : Option Match :=
  (longest? (rests ignoreCase r { before, rest })).map fun q =>
    { front, text := rest.take (rest.length - q.rest.length), rest := q.rest, groups := q.groups }

/-- The first part of a text that an expression describes, `front` being what has been passed over,
the last character first. -/
def findFrom (r : Regex) (ignoreCase : Bool) (front : List Char) (before : Option Char) :
    List Char → Option Match
  | [] => matchAt? r ignoreCase front.reverse before []
  | c :: rest =>
    match matchAt? r ignoreCase front.reverse before (c :: rest) with
    | some m => some m
    | none => findFrom r ignoreCase (c :: front) (some c) rest

/-- The first part of a text that an expression describes. -/
def find? (r : Regex) (ignoreCase : Bool) (text : List Char) : Option Match :=
  findFrom r ignoreCase [] none text

/-! ### Reading -/

/-- What is read of an expression: it, the number of its groups so far, and what is left. -/
abbrev Read := Except String (Regex × Nat × List Char)

/-- The class with a name. -/
def class? (name : String) : Option (Char → Bool) :=
  match name with
  | "alnum" => some Char.isAlphanum
  | "alpha" => some Char.isAlpha
  | "blank" => some fun c => c == ' ' || c == '\t'
  | "cntrl" => some fun c => c.toNat < 32 || c.toNat == 127
  | "digit" => some Char.isDigit
  | "graph" => some fun c => 32 < c.toNat && c.toNat < 127
  | "lower" => some Char.isLower
  | "print" => some fun c => 32 ≤ c.toNat && c.toNat < 127
  | "punct" => some fun c => 32 < c.toNat && c.toNat < 127 && !c.isAlphanum
  | "space" => some fun c => c == ' ' || (9 ≤ c.toNat && c.toNat ≤ 13)
  | "upper" => some Char.isUpper
  | "xdigit" => some fun c => c.isDigit || ('a' ≤ c.toLower && c.toLower ≤ 'f')
  | _ => none

/-- The parts of a set up to its bracket, and what is left; `fuel` bounds their number. -/
def setParts : Nat → Bool → List Char → Except String (List CharSet × List Char)
  | 0, _, _ => .error "Unmatched [, [^, [:, [., or [="
  | _, _, [] => .error "Unmatched [, [^, [:, [., or [="
  | fuel + 1, isFirst, ']' :: rest =>
    if isFirst then do
      let (more, rest) ← setParts fuel false rest
      return (.range ']' ']' :: more, rest)
    else .ok ([], rest)
  | fuel + 1, _, '[' :: ':' :: rest => do
    let name := rest.takeWhile Char.isAlpha
    match rest.drop name.length, class? (String.ofList name) with
    | ':' :: ']' :: rest, some p =>
      let (more, rest) ← setParts fuel false rest
      return (.picked p :: more, rest)
    | ':' :: ']' :: _, none => throw "Invalid character class name"
    | _, _ => throw "Unmatched [, [^, [:, [., or [="
  | fuel + 1, _, c :: '-' :: d :: rest =>
    if d = ']' then do
      let (more, rest) ← setParts fuel false ('-' :: d :: rest)
      return (.range c c :: more, rest)
    else if d < c then .error "Invalid range end"
    else do
      let (more, rest) ← setParts fuel false rest
      return (.range c d :: more, rest)
  | fuel + 1, _, c :: rest => do
    let (more, rest) ← setParts fuel false rest
    return (.range c c :: more, rest)

/-- How often something is repeated, as the text between braces says, and what is left. -/
def bounds? (extended : Bool) (cs : List Char) : Option (Nat × Option Nat × List Char) := do
  let number (cs : List Char) : Nat := cs.foldl (fun n c => 10 * n + (c.toNat - 48)) 0
  let least := cs.takeWhile Char.isDigit
  let rest := cs.drop least.length
  let (most, rest) : Option Nat × List Char :=
    match rest with
    | ',' :: rest =>
      let digits := rest.takeWhile Char.isDigit
      (if digits = [] then none else some (number digits), rest.drop digits.length)
    | _ => (some (number least), rest)
  match extended, rest with
  | true, '\x7d' :: rest => return (number least, most, rest)
  | false, '\\' :: '\x7d' :: rest => return (number least, most, rest)
  | _, _ => none

/-- The kinds of signs in an expression. -/
inductive Sign where
  /-- A character that stands for itself. -/
  | literal (c : Char)
  /-- A sign with a meaning. -/
  | sign (c : Char)
  /-- A letter behind a backslash. -/
  | escape (c : Char)
  deriving DecidableEq

/-- The first sign of an expression, and what is left. In the basic form a backslash gives some
characters a meaning that they have without one in the extended form. -/
def sign? (extended : Bool) (cs : List Char) : Option (Sign × List Char) :=
  let switched (c : Char) : Bool := "()|+?".toList.contains c || c == '\x7b' || c == '\x7d'
  match cs with
  | [] => none
  | ['\\'] => some (.literal '\\', [])
  | '\\' :: c :: rest =>
    if c.isAlphanum || "<>\x60'".toList.contains c then some (.escape c, rest)
    else if switched c && !extended then some (.sign c, rest)
    else some (.literal c, rest)
  | c :: rest =>
    if ".[*^$".toList.contains c || (extended && switched c && c != '\x7d') then
      some (.sign c, rest)
    else some (.literal c, rest)

/-- Whether a choice or a group ends here. -/
def endsBranch (extended : Bool) (cs : List Char) : Bool :=
  match sign? extended cs with
  | none => true
  | some (.sign c, _) => c == '|' || c == ')'
  | _ => false

/-- The repetitions behind something, and what is left; `fuel` bounds their number. -/
def repetitions (extended : Bool) : Nat → Regex → List Char → Except String (Regex × List Char)
  | 0, r, cs => .ok (r, cs)
  | fuel + 1, r, cs =>
    match sign? extended cs with
    | some (.sign '*', rest) => repetitions extended fuel (.repeat r 0 none) rest
    | some (.sign '+', rest) => repetitions extended fuel (.repeat r 1 none) rest
    | some (.sign '?', rest) => repetitions extended fuel (.repeat r 0 (some 1)) rest
    | some (.sign '\x7b', rest) =>
      match bounds? extended rest with
      | some (least, most, rest) => repetitions extended fuel (.repeat r least most) rest
      | none => if extended then .ok (r, cs) else .error "Invalid preceding regular expression"
    | _ => .ok (r, cs)

/-- What a letter behind a backslash stands for. -/
def escaped (c : Char) : Regex :=
  let word (outside : Bool) : Regex := .set outside [.picked inWord]
  let space (outside : Bool) : Regex :=
    .set outside [.picked fun c => c == ' ' || (9 ≤ c.toNat && c.toNat ≤ 13)]
  match c with
  | 'w' => word false
  | 'W' => word true
  | 's' => space false
  | 'S' => space true
  | 'b' => .edge true true
  | '<' => .edge true false
  | '>' => .edge false true
  | '\x60' => .start
  | '\x27' => .finish
  | 'n' => .char '\n'
  | 't' => .char '\t'
  | c => if c.isDigit then .same (c.toNat - 48) else .char c

mutual

/-- One item of an expression, and what is left. -/
def readItem (extended : Bool) (fuel : Nat) (isFirst : Bool) (groups : Nat) (cs : List Char) :
    Read :=
  match fuel with
  | 0 => .error "Regular expression too big"
  | fuel + 1 => do
    match sign? extended cs with
    | none => return (.empty, groups, [])
    | some (.literal c, rest) => return (.char c, groups, rest)
    | some (.escape c, rest) => return (escaped c, groups, rest)
    | some (.sign '(', rest) =>
      let n := groups + 1
      let (r, groups, rest) ← readChoice extended fuel n rest
      match sign? extended rest with
      | some (.sign ')', rest) => return (.group n r, groups, rest)
      | _ => throw (if extended then "Unmatched ( or \\(" else "Unmatched ( or \\(")
    | some (.sign '.', rest) => return (.any, groups, rest)
    | some (.sign '[', '^' :: rest) =>
      let (parts, rest) ← setParts (rest.length + 1) true rest
      return (.set true parts, groups, rest)
    | some (.sign '[', rest) =>
      let (parts, rest) ← setParts (rest.length + 1) true rest
      return (.set false parts, groups, rest)
    | some (.sign '^', rest) =>
      return (if extended || isFirst then .start else .char '^', groups, rest)
    | some (.sign '$', rest) =>
      return (if extended || endsBranch extended rest then .finish else .char '$', groups, rest)
    | some (.sign c, rest) => return (.char c, groups, rest)

/-- Items one after the other up to the end of a branch, and what is left. -/
def readBranch (extended : Bool) (fuel : Nat) (isFirst : Bool) (groups : Nat) (cs : List Char) :
    Read :=
  match fuel with
  | 0 => .error "Regular expression too big"
  | fuel + 1 => do
    if endsBranch extended cs then return (.empty, groups, cs)
    let (item, groups, rest) ← readItem extended fuel isFirst groups cs
    let canRepeat := !(!extended && isFirst && (item matches .start))
    let (item, rest) ←
      if canRepeat then repetitions extended (rest.length + 1) item rest else pure (item, rest)
    let stillFirst := !extended && isFirst && (item matches .start)
    let (more, groups, rest) ← readBranch extended fuel stillFirst groups rest
    return (match more with
      | .empty => item
      | _ => .seq item more, groups, rest)

/-- Branches between bars, and what is left. -/
def readChoice (extended : Bool) (fuel : Nat) (groups : Nat) (cs : List Char) : Read :=
  match fuel with
  | 0 => .error "Regular expression too big"
  | fuel + 1 => do
    let (a, groups, rest) ← readBranch extended fuel true groups cs
    match sign? extended rest with
    | some (.sign '|', rest) =>
      let (b, groups, rest) ← readChoice extended fuel groups rest
      return (.alt a b, groups, rest)
    | _ => return (a, groups, rest)

end

/-- The expression that a text spells. -/
def parse (extended : Bool) (text : String) : Except String Regex := do
  let (r, _, rest) ← readChoice extended (3 * text.length + 8) 0 text.toList
  if rest.isEmpty then return r else throw "Unmatched ) or \\)"

end Regex

end ModuleBuild
