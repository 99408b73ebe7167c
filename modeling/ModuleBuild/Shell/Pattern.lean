/-!
# Patterns of a shell

A pattern describes texts: a star stands for any text, a question mark for any one character, and a
set in brackets for one of the characters in it. A character in quotes stands for itself.

## Main definitions

* `Shell.Pattern` — a pattern as a list of items
* `Shell.Pattern.ofMarked` — the pattern that characters spell
* `Shell.Pattern.accepts` — whether a text is one that the pattern describes
* `Shell.Pattern.dropFront`, `Shell.Pattern.dropEnd` — a text without a part that a pattern
  describes
-/

namespace ModuleBuild

namespace Shell

/-- A part of a set. -/
inductive PatternMember where
  /-- The characters from one to another. -/
  | range (low high : Char)
  /-- The characters of a class with a name. -/
  | named (name : String)
  deriving DecidableEq

/-- One item of a pattern. -/
inductive PatternItem where
  /-- This character. -/
  | char (c : Char)
  /-- Any one character. -/
  | one
  /-- Any text. -/
  | any
  /-- One of the characters in a set, or one outside of it. -/
  | set (outside : Bool) (members : List PatternMember)
  deriving DecidableEq

/-- A pattern. -/
abbrev Pattern := List PatternItem

/-- Whether a character is of a class with a name. -/
def inClass (name : String) (c : Char) : Bool :=
  match name with
  | "alnum" => c.isAlphanum
  | "alpha" => c.isAlpha
  | "blank" => c == ' ' || c == '\t'
  | "cntrl" => c.toNat < 32 || c.toNat == 127
  | "digit" => c.isDigit
  | "graph" => 32 < c.toNat && c.toNat < 127
  | "lower" => c.isLower
  | "print" => 32 ≤ c.toNat && c.toNat < 127
  | "punct" => 32 < c.toNat && c.toNat < 127 && !c.isAlphanum
  | "space" => c == ' ' || (9 ≤ c.toNat && c.toNat ≤ 13)
  | "upper" => c.isUpper
  | "xdigit" => c.isDigit || ('a' ≤ c && c ≤ 'f') || ('A' ≤ c && c ≤ 'F')
  | _ => false

/-- Whether a character belongs to a part of a set. -/
def PatternMember.contains (c : Char) : PatternMember → Bool
  | range low high => low ≤ c && c ≤ high
  | named name => inClass name c

namespace Pattern

/-- What is left of a text after any part at its front. -/
def rests : List Char → List (List Char)
  | [] => [[]]
  | c :: cs => (c :: cs) :: rests cs

/-- Whether a pattern describes a text. -/
def accepts : Pattern → List Char → Bool
  | [], cs => cs.isEmpty
  | .any :: ps, cs => (rests cs).any fun rest => accepts ps rest
  | .one :: ps, cs =>
    match cs with
    | [] => false
    | _ :: cs => accepts ps cs
  | .char p :: ps, cs =>
    match cs with
    | [] => false
    | c :: cs => p == c && accepts ps cs
  | .set outside members :: ps, cs =>
    match cs with
    | [] => false
    | c :: cs => (members.any (·.contains c)) != outside && accepts ps cs

/-! ### What characters spell -/

/-- A character with the mark of whether it stands in quotes. -/
abbrev Marked := Char × Bool

/-- The name of a class at the front, behind its bracket and colon, and what is left. -/
def className? (cs : List Marked) : Option (String × List Marked) :=
  let name := (cs.takeWhile fun p => p.1.isAlpha).map Prod.fst
  match cs.drop name.length with
  | (':', _) :: (']', _) :: rest => some (String.ofList name, rest)
  | _ => none

/-- The parts of a set up to its bracket, and what is left; `fuel` bounds their number. A bracket
that comes first does not end the set. -/
def members : Nat → Bool → List Marked → Option (List PatternMember × List Marked)
  | 0, _, _ => none
  | _, _, [] => none
  | fuel + 1, isFirst, (c, quoted) :: rest =>
    if c = ']' ∧ quoted = false ∧ isFirst = false then some ([], rest)
    else
      let named? : Option (String × List Marked) :=
        match c, quoted, rest with
        | '[', false, (':', _) :: rest => className? rest
        | _, _, _ => none
      match named? with
      | some (name, rest) =>
        (members fuel false rest).map fun (more, rest) => (.named name :: more, rest)
      | none =>
        match rest with
        | ('-', false) :: (d, dq) :: rest' =>
          if d = ']' ∧ dq = false then
            (members fuel false rest).map fun (more, rest) => (.range c c :: more, rest)
          else (members fuel false rest').map fun (more, rest) => (.range c d :: more, rest)
        | _ => (members fuel false rest).map fun (more, rest) => (.range c c :: more, rest)

/-- The set behind an opening bracket, and what is left. A set that is never closed is none. -/
def set? (cs : List Marked) : Option (PatternItem × List Marked) :=
  match cs with
  | ('!', false) :: rest =>
    (members (rest.length + 1) true rest).map fun (ms, rest) => (.set true ms, rest)
  | _ => (members (cs.length + 1) true cs).map fun (ms, rest) => (.set false ms, rest)

/-- The pattern that characters spell; `fuel` bounds their number. A backslash takes the meaning of
the next character away. -/
def ofMarkedFrom : Nat → List Marked → Pattern
  | 0, _ => []
  | _, [] => []
  | fuel + 1, (c, quoted) :: rest =>
    if quoted then .char c :: ofMarkedFrom fuel rest
    else
      match c, rest with
      | '*', _ => .any :: ofMarkedFrom fuel rest
      | '?', _ => .one :: ofMarkedFrom fuel rest
      | '\\', (d, _) :: rest => .char d :: ofMarkedFrom fuel rest
      | '[', _ =>
        match set? rest with
        | some (item, rest) => item :: ofMarkedFrom fuel rest
        | none => .char c :: ofMarkedFrom fuel rest
      | _, _ => .char c :: ofMarkedFrom fuel rest

/-- The pattern that characters spell. -/
def ofMarked (cs : List Marked) : Pattern := ofMarkedFrom (cs.length + 1) cs

/-- Whether some characters spell more than one text. -/
def isOpen (p : Pattern) : Bool := p.any fun
  | .char _ => false
  | _ => true

/-! ### Parts of a text -/

/-- The numbers up to a length, the least or the greatest first. -/
def candidates (longest : Bool) (length : Nat) : List Nat :=
  if longest then (List.range (length + 1)).reverse else List.range (length + 1)

/-- A text without the shortest or the longest part at its front that a pattern describes. -/
def dropFront (p : Pattern) (longest : Bool) (cs : List Char) : List Char :=
  match (candidates longest cs.length).find? fun n => p.accepts (cs.take n) with
  | some n => cs.drop n
  | none => cs

/-- A text without the shortest or the longest part at its end that a pattern describes. -/
def dropEnd (p : Pattern) (longest : Bool) (cs : List Char) : List Char :=
  match (candidates longest cs.length).find? fun n => p.accepts (cs.drop (cs.length - n)) with
  | some n => cs.take (cs.length - n)
  | none => cs

end Pattern

end Shell

end ModuleBuild
