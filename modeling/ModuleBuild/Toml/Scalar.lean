import ModuleBuild.Toml.Lexeme
import ModuleBuild.Toml.Value

/-!
# Numbers, dates and truth values in TOML

A value that is neither a text nor a list nor a table is one run of letters, digits and a few signs.
The run is taken from the text as a whole and must have the form of some value from end to end.

## Main definitions

* `Toml.integer?`, `Toml.real?` — numbers
* `Toml.isDate`, `Toml.isTime`, `Toml.isMoment` — dates and times
* `Toml.scalar` — any of them
-/

namespace ModuleBuild

namespace Toml

/-- What a run may hold. -/
def isRunChar (c : Char) : Bool :=
  c.isAlphanum || c == '+' || c == '-' || c == '_' || c == '.' || c == ':'

/-! ### Numbers -/

/-- The digits of a number without the underscores, which stand between two digits only. -/
def plainDigits (isDigit : Char → Bool) : Bool → List Char → Option (List Char)
  | afterDigit, [] => if afterDigit then some [] else none
  | afterDigit, c :: rest =>
    if isDigit c then (plainDigits isDigit true rest).map (c :: ·)
    else if c = '_' && afterDigit then plainDigits isDigit false rest
    else none

/-- The digits of a number in base ten. -/
def decimalDigits (cs : List Char) : Option (List Char) := plainDigits Char.isDigit false cs

/-- The digits of a number in base ten that does not begin with a needless zero. -/
def wholeDigits (cs : List Char) : Option (List Char) := do
  let digits ← decimalDigits cs
  if digits.head? = some '0' ∧ digits.length > 1 then none else some digits

/-- A number without its sign, and whether that is a minus. -/
def splitSign (cs : List Char) : Bool × List Char :=
  match cs with
  | '-' :: rest => (true, rest)
  | '+' :: rest => (false, rest)
  | _ => (false, cs)

/-- The value of digits in a base. -/
def digitsValue (base : Nat) (digits : List Char) : Nat :=
  digits.foldl (fun n c => base * n + (Hex.value? c).getD 0) 0

/-- A number in a base other than ten. -/
def based? (base : Nat) (cs : List Char) : Option Int := do
  let digits ← plainDigits (fun c => (Hex.value? c).any (· < base)) false cs
  let n := digitsValue base digits
  if n < Nat.pow 2 63 then some n else none

/-- A whole number. -/
def integer? (run : List Char) : Option Int :=
  match run with
  | '0' :: 'x' :: rest => based? 16 rest
  | '0' :: 'o' :: rest => based? 8 rest
  | '0' :: 'b' :: rest => based? 2 rest
  | _ => do
    let (negative, rest) := splitSign run
    let n := digitsValue 10 (← wholeDigits rest)
    if negative then
      if n ≤ Nat.pow 2 63 then some (-n) else none
    else
      if n < Nat.pow 2 63 then some n else none

/-- The number with the given digits around the point and the given exponent. One that is too large
is refused, unless it has a minus sign, when it counts as infinite. -/
def realOf? (negative : Bool) (whole fraction : List Char) (exponent : Int) : Option Real :=
  match Binary64.ofDecimal? (digitsValue 10 (whole ++ fraction)) (exponent - fraction.length) with
  | some size => some (.finite negative size)
  | none => if negative then some (.infinite true) else none

/-- An exponent after its mark. -/
def exponent? (cs : List Char) : Option Int := do
  let (negative, rest) := splitSign cs
  let n := digitsValue 10 (← decimalDigits rest)
  return if negative then -n else n

/-- Whether a character marks an exponent. -/
def isExponentMark (c : Char) : Bool := c == 'e' || c == 'E'

/-- A floating-point number. -/
def real? (run : List Char) : Option Real :=
  let (negative, rest) := splitSign run
  if rest = ['i', 'n', 'f'] then some (.infinite negative)
  else if rest = ['n', 'a', 'n'] then some .nan
  else
    let mantissa := rest.takeWhile (!isExponentMark ·)
    let power := rest.dropWhile (!isExponentMark ·)
    let whole := mantissa.takeWhile (· ≠ '.')
    let fraction := mantissa.dropWhile (· ≠ '.')
    match fraction, power with
    | [], [] => none
    | [], _ :: power => do realOf? negative (← wholeDigits whole) [] (← exponent? power)
    | _ :: fraction, [] => do realOf? negative (← wholeDigits whole) (← decimalDigits fraction) 0
    | _ :: fraction, _ :: power => do
      realOf? negative (← wholeDigits whole) (← decimalDigits fraction) (← exponent? power)

/-! ### Dates and times -/

/-- A number of exactly `count` digits. -/
def fixedDigits? (count : Nat) (cs : List Char) : Option Nat :=
  if cs.length = count ∧ cs.all Char.isDigit then some (digitsValue 10 cs) else none

/-- How many days a month has. -/
def daysIn (year month : Nat) : Nat :=
  if month = 2 then
    if year % 4 = 0 ∧ (year % 100 ≠ 0 ∨ year % 400 = 0) then 29 else 28
  else if month = 4 ∨ month = 6 ∨ month = 9 ∨ month = 11 then 30
  else 31

/-- Whether a run is a date. -/
def isDate (run : List Char) : Bool :=
  match run.splitOn '-' with
  | [y, m, d] =>
    match fixedDigits? 4 y, fixedDigits? 2 m, fixedDigits? 2 d with
    | some year, some month, some day =>
      1 ≤ month && month ≤ 12 && 1 ≤ day && day ≤ daysIn year month
    | _, _, _ => false
  | _ => false

/-- Whether a run is an hour and a minute. -/
def isHourMinute (run : List Char) : Bool :=
  match run.splitOn ':' with
  | [h, m] => (fixedDigits? 2 h).any (· < 24) && (fixedDigits? 2 m).any (· < 60)
  | _ => false

/-- Whether a run is a time of day. -/
def isTime (run : List Char) : Bool :=
  let seconds := (run.drop 6).takeWhile Char.isDigit
  let fraction := (run.drop 6).dropWhile Char.isDigit
  isHourMinute (run.take 5) && run[5]? == some ':' && (fixedDigits? 2 seconds).any (· ≤ 60) &&
    match fraction with
    | [] => true
    | '.' :: digits => !digits.isEmpty && digits.all Char.isDigit
    | _ => false

/-- Whether a run is a time of day with or without a time zone. -/
def isZonedTime (run : List Char) : Bool :=
  let zone := run.dropWhile (fun c => c.isDigit || c == ':' || c == '.')
  isTime (run.takeWhile (fun c => c.isDigit || c == ':' || c == '.')) &&
    match zone with
    | [] => true
    | [c] => c == 'Z' || c == 'z'
    | c :: offset => (c == '+' || c == '-') && isHourMinute offset

/-- Whether a run is a date, a time of day, or a date and a time. -/
def isMoment (run : List Char) : Bool :=
  isDate run || isTime run ||
    (isDate (run.take 10) && (run[10]? == some 'T' || run[10]? == some 't') &&
      isZonedTime (run.drop 11))

/-! ### Any run -/

/-- The rest after a time that a blank separates from its date. -/
def skipTimeAfterDate (rest : List Char) : List Char :=
  match rest with
  | ' ' :: more => if isZonedTime (more.takeWhile isRunChar) then more.dropWhile isRunChar else rest
  | _ => rest

/-- A value that is one run, or a date and a time with a blank between them. -/
def scalar (cs : List Char) : Option (Node × List Char) :=
  let run := cs.takeWhile isRunChar
  let rest := cs.dropWhile isRunChar
  if run = ['t', 'r', 'u', 'e'] then some (.boolean true, rest)
  else if run = ['f', 'a', 'l', 's', 'e'] then some (.boolean false, rest)
  else if isDate run then some (.moment, skipTimeAfterDate rest)
  else if isMoment run then some (.moment, rest)
  else
    match integer? run with
    | some n => some (.integer n, rest)
    | none => (real? run).map fun r => (.real r, rest)

end Toml

end ModuleBuild
