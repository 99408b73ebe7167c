import ModuleBuild.Process.Utility.Basic
import ModuleBuild.Text.Format

/-!
# Programs that write words

These programs write their arguments, parts of them, or numbers between them.

## Main definitions

* `Utility.echo`, `Utility.printf`, `Utility.yes` — write arguments
* `Utility.basename`, `Utility.dirname` — parts of paths
* `Utility.seq` — numbers
-/

namespace ModuleBuild

namespace Utility

/-! ### Escapes -/

/-- Which escapes there are. -/
structure Escapes where
  /-- Whether a zero in front of digits in base eight does not count as one of them. -/
  zeros : Bool
  /-- Whether there are escapes for quotes and for characters by their number. -/
  characters : Bool

/-- The number that up to so many digits in a base spell, unless there are none, and what is
left. -/
def numberIn? (base most : Nat) (cs : List Char) : Option Nat × List Char :=
  let digits := (cs.take most).takeWhile (Conversion.isDigitIn base)
  (if digits = [] then none else some (Conversion.digitsAt base digits).1, cs.drop digits.length)

/-- The character with a number, as a text of bytes. -/
def characterText (n : Nat) : String := Octets.ofText (String.singleton (Char.ofNat n))

/-- What stands for an escape behind its backslash, and what is left, unless the escape says that
nothing follows. -/
def Escapes.read (e : Escapes) (cs : List Char) : Option (String × List Char) :=
  let byte (n : Nat) (rest : List Char) : Option (String × List Char) :=
    some (String.singleton (Char.ofNat (n % 256)), rest)
  let itself : Option (String × List Char) :=
    some ("\\" ++ String.ofList (cs.take 1), cs.drop 1)
  let numbered (base most : Nat) (rest : List Char) : Option (String × List Char) :=
    match numberIn? base most rest with
    | (some n, rest) => if most ≤ 3 then byte n rest else some (characterText n, rest)
    | (none, _) => itself
  match cs with
  | 'a' :: rest => byte 7 rest
  | 'b' :: rest => byte 8 rest
  | 'c' :: _ => none
  | 'e' :: rest => byte 27 rest
  | 'f' :: rest => byte 12 rest
  | 'n' :: rest => byte 10 rest
  | 'r' :: rest => byte 13 rest
  | 't' :: rest => byte 9 rest
  | 'v' :: rest => byte 11 rest
  | '\\' :: rest => byte 92 rest
  | '"' :: rest => if e.characters then byte 34 rest else itself
  | 'u' :: rest => if e.characters then numbered 16 4 rest else itself
  | 'U' :: rest => if e.characters then numbered 16 8 rest else itself
  | 'x' :: rest => numbered 16 2 rest
  | '0' :: rest =>
    if e.zeros then
      match numberIn? 8 3 rest with
      | (some n, rest) => byte n rest
      | (none, _) => byte 0 rest
    else numbered 8 3 cs
  | _ => numbered 8 3 cs

/-- A text with its escapes replaced, and whether an escape says that nothing follows; `fuel` bounds
the number of characters. -/
def Escapes.replaceFrom (e : Escapes) : Nat → List Char → String × Bool
  | 0, _ => ("", false)
  | _, [] => ("", false)
  | fuel + 1, '\\' :: rest =>
    match e.read rest with
    | none => ("", true)
    | some (text, rest) =>
      let (more, stops) := e.replaceFrom fuel rest
      (text ++ more, stops)
  | fuel + 1, c :: rest =>
    let (more, stops) := e.replaceFrom fuel rest
    (String.singleton c ++ more, stops)

/-- A text with its escapes replaced, and whether an escape says that nothing follows. -/
def Escapes.replace (e : Escapes) (text : String) : String × Bool :=
  e.replaceFrom text.length text.toList

/-! ### Arguments -/

/-- The letters of the options at the front of the arguments of `echo`, and the words behind
them. -/
def echoOptions : List String → List Char × List String
  | [] => ([], [])
  | a :: rest =>
    match a.toList with
    | '-' :: c :: cs =>
      if (c :: cs).all "neE".toList.contains then
        let (letters, words) := echoOptions rest
        (c :: cs ++ letters, words)
      else ([], a :: rest)
    | _ => ([], a :: rest)

/-- Writes its arguments with blanks between them. -/
def echo : Job Nat := do
  let (letters, words) := echoOptions (← read).arguments
  let escapes := (letters.filter fun c => c == 'e' || c == 'E').getLast? == some 'e'
  let text := " ".intercalate words
  let rules : Escapes := { zeros := true, characters := false }
  let (text, stops) := if escapes then rules.replace text else (text, false)
  Job.print 0 (if stops || letters.contains 'n' then text else text ++ "\n")

/-- A number times a power of ten, rounded to 64 binary digits, as a fraction. -/
def extendedFraction (digits : Nat) (power : Int) : Nat × Nat :=
  let num := digits * Nat.pow 10 power.toNat
  let den := Nat.pow 10 (-power).toNat
  let size (n : Nat) : Int := if n = 0 then 0 else (Nat.log2 n : Int)
  let shift : Int := 64 - (size num - size den)
  let scaled := (num * Nat.pow 2 shift.toNat, den * Nat.pow 2 (-shift).toNat)
  let excess : Nat := if scaled.1 / scaled.2 < UInt64.size then 0 else 1
  let unit := scaled.2 * Nat.pow 2 excess
  let (quotient, rest) := (scaled.1 / unit, scaled.1 % unit)
  let up := unit < 2 * rest || (2 * rest == unit && quotient % 2 == 1)
  let mantissa := if up then quotient + 1 else quotient
  let power := (excess : Int) - shift
  (mantissa * Nat.pow 2 power.toNat, Nat.pow 2 (-power).toNat)

/-- What a format means to `printf`. -/
def printfRules : Format.Rules :=
  { escape := Escapes.read { zeros := false, characters := true }
    expand := Escapes.replace { zeros := true, characters := true }
    fraction := extendedFraction
    texts := [('q', quotedIfNeeded)] }

/-- Why an argument does not fit. -/
def misfitReason : Format.Misfit → String
  | .notNumeric => "expected a numeric value"
  | .unfinished => "value not completely converted"
  | .outOfRange => "Numerical result out of range"

/-- Writes its arguments as a format says. -/
def printf : Job Nat := do
  let arguments := (← read).arguments
  let arguments := if arguments.head? = some "--" then arguments.drop 1 else arguments
  match arguments with
  | [] => misuse 1 "missing operand"
  | format :: arguments =>
    let (pieces, left, finish) := Format.apply printfRules format arguments
    let mut status := 0
    for piece in pieces do
      match piece with
      | .text s => status := max status (← Job.print 0 s)
      | .misfit why argument =>
        say (inQuotes argument ++ ": " ++ misfitReason why)
        status := 1
    let invalid (spelling : String) : Job Nat := do
      say (spelling ++ ": invalid conversion specification")
      return 1
    match finish, left with
    | .unknown spelling, _ => invalid spelling
    | .unclosed spelling, _ => invalid spelling
    | .complete, first :: _ =>
      say ("warning: ignoring excess arguments, starting with " ++ inQuotes first)
      return status
    | _, _ => return status

/-- How many lines `yes` writes: more than anyone reads. -/
def manyLines : Nat := 20000

/-- Writes the same line again and again. -/
def yes : Job Nat :=
  withOptions [] false 1 fun _ words => do
    let line := (if words.isEmpty then "y" else " ".intercalate words) ++ "\n"
    Job.print 0 ("".intercalate (List.replicate manyLines line))

/-! ### Parts of paths -/

/-- The last name in a path, the root being its own. -/
def lastPart (path : String) : String :=
  let kept := (path.toList.reverse.dropWhile (· = '/')).reverse
  if path.isEmpty then ""
  else if kept = [] then "/"
  else String.ofList (kept.reverse.takeWhile (· ≠ '/')).reverse

/-- A name without an ending, unless it consists of it. -/
def withoutEnding (ending name : String) : String :=
  if name ≠ ending ∧ name.endsWith ending ∧ name ≠ "/" then
    String.ofList (name.toList.take (name.length - ending.length))
  else name

/-- Writes the last names in paths. -/
def basename : Job Nat :=
  let known : List Choice :=
    [{ key := "a", letters := ['a'], names := ["multiple"] },
      { key := "s", letters := ['s'], names := ["suffix"], value := .required },
      { key := "z", letters := ['z'], names := ["zero"] }]
  withOptions known true 1 fun given operands => do
    let ending := if has given "z" then "\x00" else "\n"
    let shown (suffix path : String) : String := withoutEnding suffix (lastPart path) ++ ending
    let several := has given "a" || has given "s"
    match operands, several with
    | [], _ => misuse 1 "missing operand"
    | paths, true =>
      let suffix := ((valuesOf given "s").getLast?).getD ""
      Job.print 0 ("".intercalate (paths.map (shown suffix)))
    | [path], false => Job.print 0 (shown "" path)
    | [path, suffix], false => Job.print 0 (shown suffix path)
    | _ :: _ :: extra :: _, false => misuse 1 ("extra operand " ++ inQuotes extra)

/-- A path without its last name. -/
def parentPart (path : String) : String :=
  let trimSlashes (cs : List Char) : List Char := (cs.reverse.dropWhile (· = '/')).reverse
  let kept := trimSlashes path.toList
  let front := (kept.reverse.dropWhile (· ≠ '/')).reverse
  match trimSlashes front with
  | [] => if path.startsWith "/" then "/" else "."
  | cs => String.ofList cs

/-- Writes paths without their last names. -/
def dirname : Job Nat :=
  withOptions [{ key := "z", letters := ['z'], names := ["zero"] }] false 1 fun given operands => do
    if operands.isEmpty then return ← misuse 1 "missing operand"
    let ending := if has given "z" then "\x00" else "\n"
    Job.print 0 ("".intercalate (operands.map fun path => parentPart path ++ ending))

/-! ### Numbers -/

/-- A decimal number: it is the integer over ten to the number of places. -/
structure Decimal where
  /-- The digits. -/
  digits : Int
  /-- The number of places. -/
  places : Nat

/-- The number that a text spells. -/
def decimal? (text : String) : Option Decimal := do
  let (negative, digits, power, rest) ← Conversion.decimalAt? (text.toList.dropWhile Format.isBlank)
  if !rest.isEmpty then none
  let whole : Nat := digits * Nat.pow 10 power.toNat
  return { digits := if negative then -(whole : Int) else whole, places := (-power).toNat }

/-- A number with at least so many places. -/
def Decimal.withPlaces (places : Nat) (d : Decimal) : Int :=
  d.digits * Nat.pow 10 (places - d.places)

/-- A number over ten to a number of places, with fewer of them. -/
def fixedText (scale places : Nat) (n : Int) : String :=
  { kind := 'f', precision := some places : Conversion }.real (n < 0) n.natAbs (Nat.pow 10 scale)

/-- A text with zeros in front of its digits. -/
def zeroed (width : Nat) (text : String) : String :=
  let (sign, digits) := text.toList.span (· = '-')
  String.ofList (sign ++ List.replicate (width - text.length) '0' ++ digits)

/-- Numbers from one on, `fuel` bounding how many of them there are. -/
def stepsFrom (step last : Int) : Nat → Int → List Int
  | 0, _ => []
  | fuel + 1, n =>
    if (0 < step && last < n) || (step < 0 && n < last) then []
    else n :: stepsFrom step last fuel (n + step)

/-- The most numbers that are written. -/
def mostNumbers : Nat := 1000000

/-- Arguments with what looks like a number at the end of the options. -/
def endBeforeNumbers : List String → List String
  | [] => []
  | a :: rest =>
    match a.toList with
    | '-' :: c :: _ =>
      if c.isDigit || c = '.' then "--" :: a :: rest else a :: endBeforeNumbers rest
    | _ => "--" :: a :: rest

/-- Arguments among which the values of options are not taken for operands. -/
def seqArguments : List String → List String
  | "-s" :: value :: rest => "-s" :: value :: seqArguments rest
  | "-f" :: value :: rest => "-f" :: value :: seqArguments rest
  | a :: rest =>
    if a.startsWith "-" && !((a.toList.drop 1).head?.any fun c => c.isDigit || c = '.') &&
        a ≠ "--" then
      a :: seqArguments rest
    else endBeforeNumbers (a :: rest)
  | [] => []

/-- Writes numbers from one to another. -/
def seq : Job Nat :=
  let known : List Choice :=
    [{ key := "s", letters := ['s'], names := ["separator"], value := .required },
      { key := "f", letters := ['f'], names := ["format"], value := .required },
      { key := "w", letters := ['w'], names := ["equal-width"] }]
  fun task => (·.run { task with arguments := seqArguments task.arguments }) <|
    withOptions known true 1 fun given operands => do
      match operands with
      | [] => misuse 1 "missing operand"
      | _ :: _ :: _ :: extra :: _ => misuse 1 ("extra operand " ++ inQuotes extra)
      | _ =>
      let wrong := operands.find? fun text => (decimal? text).isNone
      if let some text := wrong then
        return ← misuse 1 ("invalid floating point argument: " ++ inQuotes text)
      let one : Decimal := ⟨1, 0⟩
      let (first, step, last) := match operands.filterMap decimal? with
        | [last] => (one, one, last)
        | [first, last] => (first, one, last)
        | first :: step :: last :: _ => (first, step, last)
        | [] => (one, one, one)
      if step.digits = 0 then
        return ← misuse 1 ("invalid Zero increment value: " ++ inQuotes ((operands[1]?).getD ""))
      let scale := max first.places (max step.places last.places)
      let places := max first.places step.places
      let numbers := stepsFrom (step.withPlaces scale) (last.withPlaces scale) mostNumbers
        (first.withPlaces scale)
      let plain := numbers.map (fixedText scale places)
      let shown ← match (valuesOf given "f").getLast? with
        | none =>
          let widest := (plain.map String.length).foldl max 0
          pure (if has given "w" then plain.map (zeroed widest) else plain)
        | some format =>
          pure (plain.map fun n => Format.textOf (Format.apply printfRules format [n]).1)
      let separator := ((valuesOf given "s").getLast?).getD "\n"
      if shown.isEmpty then return 0
      Job.print 0 (separator.intercalate shown ++ "\n")

end Utility

end ModuleBuild
