import ModuleBuild.Number.Binary64

/-!
# The shortest decimal of a binary number

A binary number is written with the fewest decimal digits from which it is read back, and of the
decimals with that many digits with the nearest one. How the digits are laid out, with or without
an exponent, is up to the format that they are written for.

## Main definitions

* `Decimal` — digits and a power of ten
* `Binary64.shortest` — the shortest decimal that reads back
* `Decimal.Layout`, `Decimal.render` — the text of a decimal

## Implementation notes

The decimals with a given number of digits form a grid. If any point of a grid reads back as the
number, then so does one of the two points next to the number, so these two are all that is tried.
-/

namespace ModuleBuild

/-- The number `digits * 10 ^ exponent`. -/
structure Decimal where
  /-- The digits as one number. -/
  digits : Nat
  /-- The power of ten. -/
  exponent : Int
  deriving DecidableEq

namespace Decimal

/-- Where a format writes an exponent. The bounds are on the power of ten of the first digit. -/
structure Layout where
  /-- The least power that is written without an exponent; all small ones if absent. -/
  least : Option Int
  /-- The greatest power that is written without an exponent; all great ones if absent. -/
  greatest : Option Int

/-- The digits of a number below a power of ten, with a point and at least one digit behind it. -/
def renderPlain (d : Decimal) : String :=
  let digits := Nat.toDigits 10 d.digits
  if d.exponent ≥ 0 then
    String.ofList (digits ++ List.replicate d.exponent.toNat '0') ++ ".0"
  else
    let places := (-d.exponent).toNat
    let padded := List.replicate (places + 1 - digits.length) '0' ++ digits
    let whole := padded.take (padded.length - places)
    String.ofList (whole ++ '.' :: padded.drop (padded.length - places))

/-- The first digit, the others behind a point, and the signed power of ten. -/
def renderScientific (d : Decimal) (power : Int) : String :=
  let digits := Nat.toDigits 10 d.digits
  let front := match digits with
    | [] => []
    | [c] => [c]
    | c :: rest => c :: '.' :: rest
  let sign := if power < 0 then "e-" else "e+"
  String.ofList front ++ sign ++ toString power.natAbs

/-- The text of a decimal in a layout. -/
def render (layout : Layout) (d : Decimal) : String :=
  if d.digits = 0 then "0.0"
  else
    let power := d.exponent + (Nat.toDigits 10 d.digits).length - 1
    let tooSmall := layout.least.any (power < ·)
    let tooGreat := layout.greatest.any (· < power)
    if tooSmall || tooGreat then renderScientific d power else renderPlain d

end Decimal

namespace Binary64

/-- The exact place of a number and of the ends of the interval that is read back as it, over a
common denominator. -/
structure Interval where
  /-- The lower end. -/
  low : Nat
  /-- The number. -/
  value : Nat
  /-- The upper end. -/
  high : Nat
  /-- What all three are divided by. -/
  den : Nat
  /-- Whether the ends are read back as the number too. -/
  closed : Bool

/-- The interval of a number. It reaches half way to the neighbours; below a power of two the
neighbour is nearer. -/
def interval (b : Binary64) : Interval :=
  let below := if b.mantissa = Nat.pow 2 52 ∧ b.exponent > leastExponent then 1 else 2
  let factor := if b.exponent ≥ 0 then Nat.pow 2 b.exponent.toNat else 1
  let den := if b.exponent ≥ 0 then 4 else 4 * Nat.pow 2 (-b.exponent).toNat
  { low := (4 * b.mantissa - below) * factor
    value := 4 * b.mantissa * factor
    high := (4 * b.mantissa + 2) * factor
    den
    closed := b.mantissa % 2 = 0 }

/-- Whether `digits * 10 ^ exponent` lies in an interval. -/
def Interval.holds (i : Interval) (digits : Nat) (exponent : Int) : Bool :=
  let c := if exponent ≥ 0 then digits * Nat.pow 10 exponent.toNat * i.den else digits * i.den
  let unit := if exponent ≥ 0 then 1 else Nat.pow 10 (-exponent).toNat
  let low := i.low * unit
  let high := i.high * unit
  (low < c && c < high) || (i.closed && (c == low || c == high))

/-- The power of ten of the first digit of a fraction below one, tried from a given power down. -/
def firstPower (num den : Nat) : Nat → Nat → Int
  | 0, j => -j
  | fuel + 1, j => if num * Nat.pow 10 j ≥ den then -j else firstPower num den fuel (j + 1)

/-- The power of ten of the first digit of a number. -/
def power (i : Interval) : Int :=
  if i.value ≥ i.den then ((Nat.toDigits 10 (i.value / i.den)).length : Int) - 1
  else firstPower i.value i.den 330 1

/-- The point of a grid next to a number that reads back, if one of the two does. -/
def onGrid? (i : Interval) (exponent : Int) : Option Nat :=
  let num := if exponent ≥ 0 then i.value else i.value * Nat.pow 10 (-exponent).toNat
  let den := if exponent ≥ 0 then i.den * Nat.pow 10 exponent.toNat else i.den
  let down := num / den
  let twice := 2 * (num % den)
  let nearer := if twice < den then down else if den < twice then down + 1 else down + down % 2
  let further := if nearer = down then down + 1 else down
  if nearer ≠ 0 && i.holds nearer exponent then some nearer
  else if further ≠ 0 && i.holds further exponent then some further
  else none

/-- Tries grids of one digit more each time. -/
def shortestFrom (i : Interval) (top : Int) : Nat → Nat → Decimal
  | 0, _ => ⟨i.value / i.den, 0⟩
  | fuel + 1, count =>
    let exponent := top - count + 1
    match onGrid? i exponent with
    | some digits => ⟨digits, exponent⟩
    | none => shortestFrom i top fuel (count + 1)

/-- A decimal without zeros at the end of its digits. -/
def stripZeros : Nat → Decimal → Decimal
  | 0, d => d
  | fuel + 1, d =>
    if d.digits % 10 = 0 ∧ d.digits ≠ 0 then stripZeros fuel ⟨d.digits / 10, d.exponent + 1⟩ else d

/-- The shortest decimal that is read back as the number. -/
def shortest (b : Binary64) : Decimal :=
  if b.mantissa = 0 then ⟨0, 0⟩
  else
    let i := interval b
    stripZeros 20 (shortestFrom i (power i) 17 1)

end Binary64

end ModuleBuild
