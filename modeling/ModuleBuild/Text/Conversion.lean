import ModuleBuild.Number.Binary64

/-!
# Conversions of a format

A format says how a text or a number is shown: how much space it gets and on which side of it, with
which sign, with how many digits, and in which base.

## Main definitions

* `Conversion` — what a format says about one value
* `Conversion.amountsOf` — the signs, the width and the precision behind a percent sign
* `Conversion.text`, `Conversion.whole`, `Conversion.real` — a value as a conversion shows it
-/

namespace ModuleBuild

/-- What a format says about one value. -/
structure Conversion where
  /-- The signs in front of the width. -/
  flags : List Char := []
  /-- How much space there is. -/
  width : Nat := 0
  /-- How much of a text is shown, or how many digits a number has. -/
  precision : Option Nat := none
  /-- How the value is shown. -/
  kind : Char

namespace Conversion

/-- Whether a sign stands in front of the width. -/
def has (c : Conversion) (flag : Char) : Bool := c.flags.contains flag

/-- Characters in the space that a conversion gives them. -/
def pad (c : Conversion) (cs : List Char) : List Char :=
  let space := List.replicate (c.width - cs.length) ' '
  if c.has '-' then cs ++ space else space ++ cs

/-- Digits behind a sign or a mark of the base, in the space that a conversion gives them. -/
def padNumber (c : Conversion) (front digits : List Char) (zeros : Bool) : List Char :=
  if zeros && c.has '0' && !c.has '-' then
    front ++ List.replicate (c.width - front.length - digits.length) '0' ++ digits
  else c.pad (front ++ digits)

/-- The sign of a number. -/
def sign (c : Conversion) (negative : Bool) : List Char :=
  if negative then ['-'] else if c.has '+' then ['+'] else if c.has ' ' then [' '] else []

/-- A text as a conversion shows it. -/
def text (c : Conversion) (s : String) : String :=
  String.ofList (c.pad ((c.precision.map s.toList.take).getD s.toList))

/-- The digits of a number in a base, with as many as a conversion asks for. -/
def digits (c : Conversion) (base n : Nat) : List Char :=
  let ds := if n = 0 ∧ c.precision = some 0 then [] else Nat.toDigits base n
  List.replicate (c.precision.getD 1 - ds.length) '0' ++ ds

/-- A whole number as a conversion shows it. -/
def whole (c : Conversion) (n : Int) : String :=
  let zeros := c.precision.isNone
  let alternate := c.has '#'
  String.ofList <|
    match c.kind with
    | 'o' =>
      let ds := c.digits 8 n.natAbs
      c.padNumber [] (if alternate && ds.head? != some '0' then '0' :: ds else ds) zeros
    | 'x' =>
      c.padNumber (if alternate && n ≠ 0 then ['0', 'x'] else []) (c.digits 16 n.natAbs) zeros
    | 'X' =>
      c.padNumber (if alternate && n ≠ 0 then ['0', 'X'] else [])
        ((c.digits 16 n.natAbs).map Char.toUpper) zeros
    | 'u' => c.padNumber [] (c.digits 10 n.natAbs) zeros
    | _ => c.padNumber (c.sign (n < 0)) (c.digits 10 n.natAbs) zeros

/-! ### Fractions -/

/-- A fraction with some places behind the point. -/
def fixed (alternate : Bool) (num den places : Nat) : List Char :=
  let ds := Nat.toDigits 10 (Binary64.roundEven (num * Nat.pow 10 places) den)
  let ds := List.replicate (places + 1 - ds.length) '0' ++ ds
  let point := if places = 0 && !alternate then [] else ['.']
  ds.take (ds.length - places) ++ point ++ ds.drop (ds.length - places)

/-- The power of ten of the first digit of a fraction, tried from a given power up or down. -/
def powerFrom (num den : Nat) : Nat → Int → Int
  | 0, p => p
  | fuel + 1, p =>
    let (n, d) := if 0 ≤ p then (num, den * Nat.pow 10 p.toNat)
      else (num * Nat.pow 10 (-p).toNat, den)
    if n < d then powerFrom num den fuel (p - 1)
    else if 10 * d ≤ n then powerFrom num den fuel (p + 1)
    else p

/-- The digits of a fraction, as many as are asked for, and the power of ten of the first one. -/
def significant (num den count : Nat) : Nat × Int :=
  if num = 0 then (0, 0)
  else
    let guess : Int := ((Nat.toDigits 10 num).length : Int) - (Nat.toDigits 10 den).length
    let power := powerFrom num den 4 guess
    let shift := (count : Int) - 1 - power
    let (n, d) := if 0 ≤ shift then (num * Nat.pow 10 shift.toNat, den)
      else (num, den * Nat.pow 10 (-shift).toNat)
    let ds := Binary64.roundEven n d
    if ds = Nat.pow 10 count then (Nat.pow 10 (count - 1), power + 1) else (ds, power)

/-- Digits with a point behind the first one, and a power of ten. -/
def scientific (alternate : Bool) (digits : List Char) (power : Int) (mark : Char) : List Char :=
  let exponent := Nat.toDigits 10 power.natAbs
  let point := if digits.length ≤ 1 && !alternate then [] else ['.']
  digits.take 1 ++ point ++ digits.drop 1 ++ [mark, if power < 0 then '-' else '+'] ++
    List.replicate (2 - exponent.length) '0' ++ exponent

/-- A number with a point, without zeros at its end. -/
def withoutZeros (cs : List Char) : List Char :=
  if cs.contains '.' then
    let cs := (cs.reverse.dropWhile (· = '0')).reverse
    if cs.getLast? = some '.' then cs.dropLast else cs
  else cs

/-- A fraction as a conversion shows it. -/
def real (c : Conversion) (negative : Bool) (num den : Nat) : String :=
  let places := c.precision.getD 6
  let alternate := c.has '#'
  let mark := if c.kind.isUpper then 'E' else 'e'
  let padded (count ds : Nat) : List Char :=
    let ds := Nat.toDigits 10 ds
    ds ++ List.replicate (count - ds.length) '0'
  let body := match c.kind.toLower with
    | 'e' =>
      let (ds, power) := significant num den (places + 1)
      scientific alternate (padded (places + 1) ds) power mark
    | 'g' =>
      let count := max places 1
      let (ds, power) := significant num den count
      if power < -4 || (count : Int) ≤ power then
        let front := withoutZeros ((padded count ds).take 1 ++ '.' :: (padded count ds).drop 1)
        scientific false (front.filter (· ≠ '.')) power mark
      else withoutZeros (fixed alternate num den ((count : Int) - 1 - power).toNat)
    | _ => fixed alternate num den places
  String.ofList (c.padNumber (c.sign negative) body true)

/-! ### Reading -/

/-- What a format says about a number: itself, or that it is the next argument. -/
inductive Amount where
  /-- The number. -/
  | fixed (n : Nat)
  /-- The next argument. -/
  | argument
  /-- Nothing. -/
  | absent

/-- The digits at the front, and what is left. -/
def leadingDigits (cs : List Char) : Nat × List Char :=
  ((cs.takeWhile Char.isDigit).foldl (fun n c => 10 * n + (c.toNat - 48)) 0,
    cs.dropWhile Char.isDigit)

/-- The value of a digit. -/
def digitOf (c : Char) : Nat :=
  if c.isDigit then c.toNat - 48 else if 'a' ≤ c then c.toNat - 87 else c.toNat - 55

/-- Whether a character is a digit in a base. -/
def isDigitIn (base : Nat) (c : Char) : Bool := c.isAlphanum && digitOf c < base

/-- The number that the digits at the front spell in a base, and what is left. -/
def digitsAt (base : Nat) (cs : List Char) : Nat × List Char :=
  ((cs.takeWhile (isDigitIn base)).foldl (fun n c => base * n + digitOf c) 0,
    cs.dropWhile (isDigitIn base))

/-- The number that the digits at the front spell, and what is left. A zero in front means base
eight, and an `x` behind it base sixteen. -/
def wholeAt (cs : List Char) : Nat × List Char :=
  match cs with
  | '0' :: x :: c :: rest =>
    if (x == 'x' || x == 'X') && isDigitIn 16 c then digitsAt 16 (c :: rest) else digitsAt 8 cs
  | '0' :: _ => digitsAt 8 cs
  | _ => digitsAt 10 cs

/-- An amount at the front, and what is left. -/
def amountAt (cs : List Char) : Amount × List Char :=
  match cs with
  | '*' :: rest => (.argument, rest)
  | c :: _ =>
    if c.isDigit then
      let (n, rest) := leadingDigits cs
      (.fixed n, rest)
    else (.absent, cs)
  | [] => (.absent, [])

/-- The signs, the width and the precision behind a percent sign, and what is left. -/
def amountsOf (cs : List Char) : List Char × Amount × Amount × List Char :=
  let isFlag (c : Char) : Bool := c == '#' || c == '-' || c == '+' || c == ' ' || c == '0'
  let (width, rest) := amountAt (cs.dropWhile isFlag)
  match rest with
  | '.' :: rest =>
    match amountAt rest with
    | (.absent, rest) => (cs.takeWhile isFlag, width, .fixed 0, rest)
    | (precision, rest) => (cs.takeWhile isFlag, width, precision, rest)
  | _ => (cs.takeWhile isFlag, width, .absent, rest)

/-- A decimal at the front: whether it is negative, its digits as one number, the power of ten that
they are multiplied by, and what is left. -/
def decimalAt? (cs : List Char) : Option (Bool × Nat × Int × List Char) :=
  let (negative, cs) : Bool × List Char :=
    match cs with
    | '-' :: rest => (true, rest)
    | '+' :: rest => (false, rest)
    | _ => (false, cs)
  let front := cs.takeWhile Char.isDigit
  let rest := cs.dropWhile Char.isDigit
  let (back, rest) : List Char × List Char :=
    match rest with
    | '.' :: more => (more.takeWhile Char.isDigit, more.dropWhile Char.isDigit)
    | _ => ([], rest)
  if front = [] ∧ back = [] then none
  else
    let digits := (leadingDigits (front ++ back)).1
    let (sign, more) : Int × List Char :=
      match rest with
      | e :: '-' :: more => if e.toLower = 'e' then (-1, more) else (1, [])
      | e :: '+' :: more => if e.toLower = 'e' then (1, more) else (1, [])
      | e :: more => if e.toLower = 'e' then (1, more) else (1, [])
      | [] => (1, [])
    let (power, after) := leadingDigits more
    let (power, rest) : Int × List Char :=
      if more.head?.any Char.isDigit then (sign * power, after) else (0, rest)
    some (negative, digits, power - back.length, rest)

end Conversion

end ModuleBuild
