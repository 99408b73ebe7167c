import ModuleBuild.FileTree.Question
import ModuleBuild.Shell.Tool.Basic

/-!
# Built-in tools that answer questions

`test` works out a condition and answers by its status: zero if the condition holds, one if not. Its
arguments are operators, parentheses and texts. An argument that spells an operator is a text where
the arguments around it leave no other reading.

## Main definitions

* `Shell.Tool.Sign` — what an argument is where it stands
* `Shell.Tool.holds` — whether a condition holds
* `Shell.Tool.test` — the tool

## Implementation notes

A step takes the arguments from its own on, and leaves those from the last one that it has used on.
-/

namespace ModuleBuild

namespace Shell

namespace Tool

/-- What an argument of a condition is. -/
inductive Sign where
  /-- A text. -/
  | text
  /-- A question about the text behind it. -/
  | unary
  /-- A question about the texts around it. -/
  | binary
  /-- The opposite of what follows. -/
  | not
  /-- Both sides hold. -/
  | and
  /-- One side holds. -/
  | or
  /-- An opening parenthesis. -/
  | opening
  /-- A closing parenthesis. -/
  | closing
  /-- There is no argument. -/
  | finished
  deriving DecidableEq

/-- The questions about one text. -/
def unaryNames : List String :=
  ["-r", "-w", "-x", "-e", "-f", "-d", "-c", "-b", "-p", "-u", "-g", "-k", "-s", "-t", "-z", "-n",
    "-h", "-L", "-O", "-G", "-S"]

/-- The questions about two texts. -/
def binaryNames : List String :=
  ["=", "!=", "<", ">", "-eq", "-ne", "-ge", "-gt", "-le", "-lt", "-nt", "-ot", "-ef"]

/-- Whether an operator about one text is a text itself, as the arguments behind it show. -/
def isOperand : List String → Bool
  | [] => true
  | [_] => false
  | next :: _ => binaryNames.contains next

/-- What the first of some arguments is. -/
def signAt : List String → Sign
  | [] => .finished
  | a :: rest =>
    if unaryNames.contains a then (if isOperand rest then .text else .unary)
    else if binaryNames.contains a then .binary
    else
      match a with
      | "!" => .not
      | "-a" => .and
      | "-o" => .or
      | "(" => if rest = [] then .text else .opening
      | ")" => .closing
      | _ => .text

/-! ### Questions -/

/-- The answer to a question about one text. -/
def askOne (operator a : String) : Act Bool := do
  match operator with
  | "-z" => return a.isEmpty
  | "-n" => return !a.isEmpty
  | "-t" =>
    let _ ← integer a
    return false
  | _ =>
    let st ← get
    return st.system.files.answers st.task.cwd operator ⟨a⟩

/-- The answer to a question about two texts. -/
def askTwo (a operator b : String) : Act Bool := do
  let st ← get
  let numbers (compare : Int → Int → Bool) : Act Bool := do
    let m ← integer a
    let n ← integer b
    return compare m n
  match operator with
  | "=" => return a == b
  | "!=" => return a != b
  | "<" => return a < b
  | ">" => return b < a
  | "-eq" => numbers (· == ·)
  | "-ne" => numbers (· != ·)
  | "-ge" => numbers (· ≥ ·)
  | "-gt" => numbers (· > ·)
  | "-le" => numbers (· ≤ ·)
  | "-lt" => numbers (· < ·)
  | "-ef" =>
    return st.system.files.isSame st.task.cwd ⟨a⟩ ⟨b⟩
  | _ => return false

/-! ### Conditions -/

/-- Whether something holds, and the arguments from the last one that it has used on. -/
abbrev Answer := Act (Bool × List String)

/-- A question, a text, or a condition in parentheses, the first argument being of a kind; `whole`
works out a condition. -/
def question (whole : List String → Answer) (sign : Sign) (arguments : List String) : Answer := do
  match sign, arguments with
  | .finished, _ => return (false, arguments)
  | .opening, _ :: rest =>
    if signAt rest = .closing then return (false, rest)
    let (yes, rest) ← whole rest
    if signAt rest.tail = .closing then return (yes, rest.tail)
    fault "closing paren expected"
  | .unary, operator :: rest =>
    match rest with
    | [] => fault (operator ++ ": argument expected")
    | a :: _ => return (← askOne operator a, rest)
  | _, a :: rest =>
    match rest with
    | operator :: behind =>
      if signAt rest = .binary then
        match behind with
        | [] => fault (operator ++ ": argument expected")
        | b :: _ => return (← askTwo a operator b, behind)
      else return (!a.isEmpty, arguments)
    | [] => return (!a.isEmpty, arguments)
  | _, [] => return (false, [])

/-- A question or its opposite; `fuel` bounds how often it is reversed. -/
def reversed (whole : List String → Answer) : Nat → Sign → List String → Answer
  | 0, _, arguments => return (false, arguments)
  | fuel + 1, sign, arguments => do
    if sign ≠ .not then question whole sign arguments
    else
      let next := signAt arguments.tail
      let (yes, rest) ← reversed whole fuel next
        (if next = .finished then arguments else arguments.tail)
      return (!yes, rest)

/-- Parts between the same operators, all of which are worked out; `fuel` bounds their number. -/
def among (operator : Sign) (combine : Bool → Bool → Bool) (one : Sign → List String → Answer) :
    Nat → Sign → List String → Answer
  | 0, _, arguments => return (false, arguments)
  | fuel + 1, sign, arguments => do
    let (a, rest) ← one sign arguments
    if signAt rest.tail ≠ operator then return (a, rest)
    let behind := rest.drop 2
    let (b, rest) ← among operator combine one fuel (signAt behind) behind
    return (combine a b, rest)

/-- A condition whose first argument is of a kind; `fuel` bounds how many parentheses are inside one
another. -/
def condition : Nat → Sign → List String → Answer
  | 0, _, arguments => return (false, arguments)
  | fuel + 1, sign, arguments => do
    let count := arguments.length + 1
    let whole (arguments : List String) : Answer := condition fuel (signAt arguments) arguments
    let all := among .and and (reversed whole count) count
    among .or or all count sign arguments

/-- Whether the condition that some arguments spell holds, the first of them being of a kind. -/
def conditionHolds (sign : Sign) (arguments : List String) : Act Bool := do
  let (yes, rest) ← condition (arguments.length + 1) sign arguments
  match rest with
  | a :: _ :: _ => fault (if a.isEmpty then "unexpected operator" else a ++ ": unexpected operator")
  | _ => return yes

/-- Whether the condition that some arguments spell holds. Few arguments are read by rules of their
own; `fuel` bounds how often they are. -/
def holds : Nat → List String → Act Bool
  | 0, _ => return false
  | fuel + 1, arguments => do
    match arguments with
    | [] => return false
    | [_, operator, _] =>
      if binaryNames.contains operator then conditionHolds .text arguments else few fuel arguments
    | [_, _, _, _] => few fuel arguments
    | _ => conditionHolds (signAt arguments) arguments
where
  /-- Three or four arguments, which may stand in parentheses or behind a sign. -/
  few (fuel : Nat) (arguments : List String) : Act Bool := do
    if arguments.head? = some "(" ∧ arguments.getLast? = some ")" then
      let inner := (arguments.drop 1).dropLast
      conditionHolds (signAt inner) inner
    else if arguments.head? = some "!" then return !(← holds fuel (arguments.drop 1))
    else conditionHolds (signAt arguments) arguments

/-- Answers a question by its status. A tool that is called by a bracket ends with one. -/
def test (arguments : List String) : Act Nat := do
  let isBracket := (← get).tool == some "["
  if isBracket && arguments.getLast? != some "]" then fault "missing ]"
  let arguments := if isBracket then arguments.dropLast else arguments
  return if ← holds (arguments.length + 1) arguments then 0 else 1

end Tool

end Shell

end ModuleBuild
