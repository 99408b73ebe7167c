import ModuleBuild.FileTree.Question
import ModuleBuild.Process.Utility.Basic
import ModuleBuild.Text.Conversion
import ModuleBuild.Text.Regex

/-!
# Programs that answer questions

These programs work something out from their arguments, and some of them answer only by their
status.

## Main definitions

* `Utility.succeed`, `Utility.fail`, `Utility.sleep`, `Utility.pwd` — small programs
* `Utility.Condition`, `Utility.test` — conditions
* `Utility.Calculation`, `Utility.expr` — sums of numbers and texts
-/

namespace ModuleBuild

namespace Utility

/-! ### Small programs -/

/-- Does nothing. -/
def succeed : Job Nat := return 0

/-- Does nothing, without success. -/
def fail : Job Nat := return 1

/-- Whether a text is a length of time. -/
def isInterval (text : String) : Bool :=
  match Conversion.decimalAt? text.toList with
  | some (negative, _, _, rest) =>
    !negative && (rest = [] || [['s'], ['m'], ['h'], ['d']].contains rest)
  | none => false

/-- Waits. Nothing depends on how long. -/
def sleep : Job Nat :=
  withOptions [] false 1 fun _ operands => do
    if operands.isEmpty then return ← misuse 1 "missing operand"
    let wrong := operands.filter fun text => !isInterval text
    for text in wrong do
      say ("invalid time interval " ++ inQuotes text)
    if wrong.isEmpty then return 0
    Job.complain ("Try '" ++ (← read).name ++ " --help' for more information.\n")
    return 1

/-- Writes the working directory. -/
def pwd : Job Nat :=
  let known : List Choice :=
    [{ key := "L", letters := ['L'], names := ["logical"] },
      { key := "P", letters := ['P'], names := ["physical"] }]
  withOptions known false 1 fun given operands => do
    if !operands.isEmpty then say "ignoring non-option arguments"
    let task ← read
    let place := "/" ++ "/".intercalate task.cwd
    let files := (← get).files
    let way := (task.environment.lookup "PWD").filter fun way =>
      way.startsWith "/" && files.placeOf? [] ⟨way⟩ == some task.cwd
    let shown := if (lastOf given ["L", "P"]).any (·.1 == "L") then way.getD place else place
    Job.print 0 (shown ++ "\n")

/-! ### Conditions -/

/-- What works out a condition from arguments, of which some are left. -/
abbrev Condition :=
  StateT (List String) (ReaderT (List String × Location × FileTree) (Except String))

namespace Condition

/-- Refuses a condition that ends too early. -/
def beyond {α : Type} : Condition α := do
  throw ("missing argument after " ++ inQuotes (((← read).1.getLast?).getD ""))

/-- The number that an argument spells. -/
def integer (text : String) : Condition Int := do
  let isBlank (c : Char) : Bool := c == ' ' || (9 ≤ c.toNat && c.toNat ≤ 13)
  let cs := text.toList.dropWhile isBlank
  let (negative, cs) : Bool × List Char :=
    match cs with
    | '-' :: rest => (true, rest)
    | '+' :: rest => (false, rest)
    | rest => (false, rest)
  let digits := cs.takeWhile Char.isDigit
  if digits = [] || !(cs.drop digits.length).all isBlank then
    throw ("invalid integer " ++ inQuotes text)
  let n := (Conversion.leadingDigits digits).1
  return if negative then -(n : Int) else n

/-- Whether an argument looks like a question about one text. -/
def isUnary (text : String) : Bool := text.startsWith "-" && text.length == 2

/-- The answer to a question about one text. -/
def askOne (operator a : String) : Condition Bool := do
  match operator with
  | "-z" => return a.isEmpty
  | "-n" => return !a.isEmpty
  | "-t" =>
    let _ ← integer a
    return false
  | _ =>
    if !"abcdefghkLNOprsStuwxG".toList.any (operator == "-" ++ String.singleton ·) then
      throw (inQuotes operator ++ ": unary operator expected")
    let (_, cwd, files) ← read
    return files.answers cwd (if operator = "-a" then "-e" else operator) ⟨a⟩

/-- The questions about two texts. -/
def binaryNames : List String :=
  ["=", "==", "!=", "<", ">", "-eq", "-ne", "-lt", "-le", "-gt", "-ge", "-nt", "-ot", "-ef"]

/-- The answer to a question about two texts. -/
def askTwo (a operator b : String) : Condition Bool := do
  let numbers (compare : Int → Int → Bool) : Condition Bool := do
    let m ← integer a
    let n ← integer b
    return compare m n
  let (_, cwd, files) ← read
  let isThere (a : String) : Bool := files.answers cwd "-e" ⟨a⟩
  match operator with
  | "=" => return a == b
  | "==" => return a == b
  | "!=" => return a != b
  | "<" => return a < b
  | ">" => return b < a
  | "-eq" => numbers (· == ·)
  | "-ne" => numbers (· != ·)
  | "-ge" => numbers (· ≥ ·)
  | "-gt" => numbers (· > ·)
  | "-le" => numbers (· ≤ ·)
  | "-lt" => numbers (· < ·)
  | "-nt" => return isThere a && !isThere b
  | "-ot" => return isThere b && !isThere a
  | _ => return files.isSame cwd ⟨a⟩ ⟨b⟩

/-- A question behind signs that reverse it; `few` works out so many arguments. -/
def term (few : Nat → Condition Bool) : Nat → Condition Bool
  | 0 => beyond
  | fuel + 1 => do
    match ← get with
    | [] => beyond
    | ["!"] => beyond
    | "!" :: rest =>
      set rest
      return !(← term few fuel)
    | ["("] => beyond
    | "(" :: rest =>
      set rest
      let inside := rest.takeWhile (· ≠ ")")
      let count := if 4 ≤ inside.length then rest.length else max 1 inside.length
      let yes ← few count
      match ← get with
      | ")" :: rest =>
        set rest
        return yes
      | found :: _ => throw (inQuotes ")" ++ " expected, found " ++ found)
      | [] => throw (inQuotes ")" ++ " expected")
    | a :: operator :: b :: rest =>
      if binaryNames.contains operator then
        set rest
        askTwo a operator b
      else if isUnary a then
        set (b :: rest)
        askOne a operator
      else
        set (operator :: b :: rest)
        return !a.isEmpty
    | a :: rest =>
      if isUnary a then
        match rest with
        | b :: rest =>
          set rest
          askOne a b
        | [] => beyond
      else
        set rest
        return !a.isEmpty

/-- Parts between the same operators; `fuel` bounds their number. -/
def among (operator : String) (combine : Bool → Bool → Bool) (one : Condition Bool) :
    Nat → Condition Bool
  | 0 => beyond
  | fuel + 1 => do
    let a ← one
    match ← get with
    | o :: rest =>
      if o = operator then
        set rest
        return combine a (← among operator combine one fuel)
      else return a
    | [] => return a

/-- Works out so many arguments; `fuel` bounds how many parentheses are inside one another. Up to
four arguments are read by rules of their own. -/
def holds : Nat → Nat → Condition Bool
  | 0, _ => beyond
  | fuel + 1, count => do
    let arguments ← get
    let size := arguments.length + 1
    let all : Condition Bool :=
      among "-o" or (among "-a" and (term (holds fuel) size) size) size
    match count, arguments with
    | 1, a :: rest =>
      set rest
      return !a.isEmpty
    | 2, "!" :: rest =>
      set rest
      return !(← holds fuel 1)
    | 2, a :: b :: rest =>
      if isUnary a then
        set rest
        askOne a b
      else beyond
    | 3, a :: operator :: b :: rest =>
      if binaryNames.contains operator then
        set rest
        askTwo a operator b
      else if a = "!" then
        set (operator :: b :: rest)
        return !(← holds fuel 2)
      else if a = "(" ∧ b = ")" then
        set rest
        return !operator.isEmpty
      else if operator = "-a" ∨ operator = "-o" then all
      else throw (inQuotes operator ++ ": binary operator expected")
    | 4, "!" :: rest =>
      set rest
      return !(← holds fuel 3)
    | 4, "(" :: a :: b :: ")" :: rest =>
      set (a :: b :: ")" :: rest)
      let yes ← holds fuel 2
      modify (List.drop 1)
      return yes
    | _, _ => all

end Condition

/-- Answers a question by its status. -/
def testOf (arguments : List String) : Job Nat := do
  if arguments.isEmpty then return 1
  let (cwd, files) ← Job.files
  match ((Condition.holds (arguments.length + 1) arguments.length).run arguments).run
    (arguments, cwd, files) with
  | .error message =>
    say message
    return 2
  | .ok (yes, []) => return if yes then 0 else 1
  | .ok (_, extra :: _) =>
    say ("extra argument " ++ inQuotes extra)
    return 2

/-- Answers a question by its status. -/
def test : Job Nat := do testOf (← read).arguments

/-- Answers a question in brackets by its status. -/
def bracket : Job Nat := do
  let arguments := (← read).arguments
  if arguments.getLast? = some "]" then testOf arguments.dropLast
  else
    say ("missing " ++ inQuotes "]")
    return 2

/-! ### Calculations -/

/-- What works out a value from arguments, of which some are left. -/
abbrev Calculation := StateT (List String) (ReaderT (List String) (Except String))

namespace Calculation

/-- The digits of a number, and whether there is a sign in front of them. -/
def signed (text : String) : Bool × List Char :=
  match text.toList with
  | '-' :: digits => (true, digits)
  | digits => (false, digits)

/-- Whether a text is a number. -/
def isInteger (text : String) : Bool :=
  let (_, digits) := signed text
  !digits.isEmpty && digits.all Char.isDigit

/-- The number that a text spells. -/
def integerOf (text : String) : Int :=
  let (negative, digits) := signed text
  let n : Int := (Conversion.leadingDigits digits).1
  if negative then -n else n

/-- Whether a value counts as nothing: no text, or zero. -/
def isNull (text : String) : Bool :=
  text.isEmpty || (isInteger text && integerOf text == 0)

/-- Takes the next argument if it is a certain one. -/
def accept (text : String) : Calculation Bool := do
  match ← get with
  | a :: rest =>
    if a = text then set rest
    return a == text
  | [] => return false

/-- Takes the next argument if it is one of some. -/
def acceptAny (texts : List String) : Calculation (Option String) := do
  match ← get with
  | a :: rest =>
    if texts.contains a then
      set rest
      return some a
    else return none
  | [] => return none

/-- The argument in front of those that are left. -/
def previous : Calculation String := do
  let all ← read
  let left ← get
  return ((all.take (all.length - left.length)).getLast?).getD ""

/-- Refuses a calculation that ends too early. -/
def needMore : Calculation Unit := do
  if (← get).isEmpty then
    throw ("syntax error: missing argument after " ++ inQuotes (← previous))

/-- Whether an expression has a group. -/
def hasGroup : Regex → Bool
  | .group _ _ => true
  | .seq a b => hasGroup a || hasGroup b
  | .alt a b => hasGroup a || hasGroup b
  | .repeat r _ _ => hasGroup r
  | _ => false

/-- What an expression describes at the beginning of a text: its group, or its length. -/
def matched (text expression : String) : Calculation String := do
  match Regex.parse false expression with
  | .error message => throw message
  | .ok r =>
    match r.matchAt? false [] none text.toList with
    | none => return if hasGroup r then "" else "0"
    | some m =>
      if hasGroup r then return String.ofList ((m.groups.lookup 1).getD [])
      else return toString (Octets.toText (String.ofList m.text)).length

/-- What an operator between two numbers comes to. -/
def calculate (operator a b : String) : Calculation String := do
  if !isInteger a || !isInteger b then throw "non-integer argument"
  let m := integerOf a
  let n := integerOf b
  match operator with
  | "+" => return toString (m + n)
  | "-" => return toString (m - n)
  | "*" => return toString (m * n)
  | _ =>
    if n = 0 then throw "division by zero"
    return toString (if operator = "/" then m.tdiv n else m.tmod n)

/-- What a comparison comes to. -/
def compare (operator a b : String) : String :=
  let order :=
    if isInteger a && isInteger b then Ord.compare (integerOf a) (integerOf b)
    else Ord.compare a b
  let yes : Bool := match operator with
    | "<" => order == .lt
    | "<=" => order != .gt
    | ">" => order == .gt
    | ">=" => order != .lt
    | "!=" => order != .eq
    | _ => order == .eq
  if yes then "1" else "0"

/-- Values between operators of one kind, from the left; `fuel` bounds their number. -/
def between (operators : List String) (one : Calculation String)
    (combine : String → String → String → Calculation String) :
    Nat → String → Calculation String
  | 0, a => return a
  | fuel + 1, a => do
    match ← acceptAny operators with
    | none => return a
    | some operator => between operators one combine fuel (← combine operator a (← one))

/-- The part of a text from a place on. -/
def part (text first count : String) : String :=
  let chars := (Octets.toText text).toList
  if !isInteger first || !isInteger count || integerOf first ≤ 0 || integerOf count ≤ 0 then ""
  else
    let rest := chars.drop ((integerOf first).toNat - 1)
    Octets.ofText (String.ofList (rest.take (integerOf count).toNat))

/-- The place of the first character of a text that is among others. -/
def placeOf (text others : String) : String :=
  let chars := (Octets.toText others).toList
  let cs := (Octets.toText text).toList
  let front := cs.takeWhile (!chars.contains ·)
  toString (if front.length = cs.length then 0 else front.length + 1)

/-- One value; `whole` works out what stands in parentheses. A value that does not count is read
without being worked out. -/
def value (whole : Bool → Calculation String) (counts : Bool) : Nat → Calculation String
  | 0 => return ""
  | fuel + 1 => do
    let one := value whole counts fuel
    if ← accept "+" then
      needMore
      plain
    else if ← accept "length" then
      return toString (Octets.toText (← one)).length
    else if ← accept "match" then
      let text ← one
      let expression ← one
      if counts then matched text expression else return text
    else if ← accept "index" then
      let text ← one
      return placeOf text (← one)
    else if ← accept "substr" then
      let text ← one
      let first ← one
      return part text first (← one)
    else
      needMore
      if ← accept "(" then
        let a ← whole counts
        if (← get).isEmpty then
          throw ("syntax error: expecting ')' after " ++ inQuotes (← previous))
        if !(← accept ")") then
          throw ("syntax error: expecting ')' instead of " ++ inQuotes (((← get).head?).getD ""))
        return a
      else if ← accept ")" then throw "syntax error: unexpected ')'"
      else plain
where
  /-- The next argument as it is. -/
  plain : Calculation String := do
    match ← get with
    | [] => return ""
    | a :: rest =>
      set rest
      return a

/-- A calculation; `fuel` bounds how many parentheses are inside one another. -/
def all : Nat → Bool → Calculation String
  | 0, _ => return ""
  | fuel + 1, counts => do
    let size := (← get).length + 1
    let unless0 (counts : Bool) (a : String) (act : Calculation String) : Calculation String :=
      if counts then act else return a
    let described (counts : Bool) : Calculation String := do
      between [":"] (value (all fuel) counts size)
        (fun _ a b => unless0 counts a (matched a b)) size (← value (all fuel) counts size)
    let product (counts : Bool) : Calculation String := do
      between ["*", "/", "%"] (described counts)
        (fun o a b => unless0 counts a (calculate o a b)) size (← described counts)
    let sum (counts : Bool) : Calculation String := do
      between ["+", "-"] (product counts)
        (fun o a b => unless0 counts a (calculate o a b)) size (← product counts)
    let comparison (counts : Bool) : Calculation String := do
      between ["<", "<=", "=", "==", "!=", ">=", ">"] (sum counts)
        (fun o a b => return compare o a b) size (← sum counts)
    let both := chain "&" comparison
      (fun a => !isNull a) (fun a b => if isNull a || isNull b then "0" else a) size
    let either := chain "|" both isNull
      (fun a b => if isNull a then (if isNull b then "0" else b) else a) size
    either counts
where
  /-- Values between the same operators, of which one on the right counts only as the one on the
  left says. -/
  chain (operator : String) (one : Bool → Calculation String) (continues : String → Bool)
      (combine : String → String → String) (size : Nat) (counts : Bool) : Calculation String := do
    let rec go : Nat → String → Calculation String
      | 0, a => return a
      | fuel + 1, a => do
        if ← accept operator then go fuel (combine a (← one (counts && continues a)))
        else return a
    go size (← one counts)

end Calculation

/-- Writes the value that its arguments come to. -/
def expr : Job Nat := do
  let arguments := (← read).arguments
  let arguments := if arguments.head? = some "--" then arguments.drop 1 else arguments
  if arguments.isEmpty then return ← misuse 2 "missing operand"
  let result := (do
    let a ← Calculation.all (arguments.length + 1) true
    match ← get with
    | [] => return a
    | extra :: _ => throw ("syntax error: unexpected argument " ++ inQuotes extra)
    : Calculation String)
  match (result.run arguments).run arguments with
  | .ok (a, _) =>
    Job.print (if Calculation.isNull a then 1 else 0) (a ++ "\n")
  | .error message =>
    say message
    return 2

end Utility

end ModuleBuild
