import ModuleBuild.Mismatch
import ModuleBuild.Number.Shortest

/-!
# Numbers in JSON documents

A numeral is a number as it is spelled. Its value is an integer where it has neither fraction nor
exponent and fits a machine word, and a floating-point number else.

## Main definitions

* `Json.Numeral` — a spelled number
* `Json.Numeral.value?` — its value, unless that is too large
* `Json.floatLayout` — how floating-point numbers are written

## Implementation notes

A floating-point value is computed from the first digits, as many as fit an unsigned word of 64
bits, and one multiplication or division by a power of ten. So a value is rounded up to three
times, and may miss the nearest number by a little.
-/

namespace ModuleBuild

namespace Json

/-- A number as it is spelled. -/
structure Numeral where
  /-- Whether there is a minus sign. -/
  negative : Bool
  /-- The digits before the point. -/
  whole : List Char
  /-- The digits behind the point, if there is one. -/
  fraction : Option (List Char)
  /-- The sign and digits of the exponent, if there is one. -/
  exponent : Option (Bool × List Char)
  deriving DecidableEq

/-- The value of a number. -/
inductive Number where
  /-- A whole number that fits a signed or an unsigned word of 64 bits. -/
  | integer (n : Int)
  /-- A floating-point number. -/
  | floating (negative : Bool) (size : Binary64)
  deriving DecidableEq

/-- Floating-point numbers are written without an exponent from 0.00001 up to 16 digits. -/
def floatLayout : Decimal.Layout := ⟨some (-5), some 15⟩

namespace Number

/-- A number as something that was found. -/
def found : Number → Found
  | integer n => .integer n
  | floating negative size =>
    .floating ((if negative then "-" else "") ++ size.shortest.render floatLayout)

end Number

namespace Numeral

/-- The value of a decimal digit. -/
def digitValue (c : Char) : Nat := c.toNat - 48

/-- The value of a list of decimal digits. -/
def digitsValue (cs : List Char) : Nat := cs.foldl (fun n c => 10 * n + digitValue c) 0

/-- Appends digits to a number as long as it fits an unsigned word. The digits that did not fit any
more come with the result. -/
def absorb (n : Nat) : List Char → Nat × List Char
  | [] => (n, [])
  | c :: rest =>
    let next := 10 * n + digitValue c
    if next < UInt64.size then absorb next rest else (n, c :: rest)

/-- The number `digits * 10 ^ exponent` by steps that are rounded each on its own; powers of ten
beyond the greatest that has a number are taken off first. -/
def ofParts? : Nat → Binary64 → Int → Option Binary64
  | 0, _, _ => some Binary64.zero
  | steps + 1, f, exponent =>
    if exponent.natAbs ≤ 308 then do
      let ten ← Binary64.ofDecimal? 1 exponent.natAbs
      if exponent ≥ 0 then f.mul? ten else f.div? ten
    else if f.mantissa = 0 then some Binary64.zero
    else if exponent ≥ 0 then none
    else do
      let ten ← Binary64.ofDecimal? 1 308
      ofParts? steps (← f.div? ten) (exponent + 308)

/-- The size of a numeral as a floating-point number, unless it is too large. -/
def size? (n : Numeral) : Option Binary64 :=
  let fraction := n.fraction.getD []
  let (first, wholeLeft) := absorb 0 n.whole
  let (digits, fractionLeft) := absorb first fraction
  let shift : Int := (wholeLeft.length : Int) - ((fraction.length : Int) - fractionLeft.length)
  let exponent := digitsValue (n.exponent.elim [] (·.2))
  let down := n.exponent.elim false (·.1)
  if exponent > 2147483647 then
    if digits ≠ 0 ∧ ¬ down then none else some Binary64.zero
  else do
    let f ← Binary64.ofRatio? digits 1
    ofParts? 5 f (if down then shift - exponent else shift + exponent)

/-- The value of a numeral, unless it is too large. Zero with a minus sign is a floating-point
number. -/
def value? (n : Numeral) : Option Number :=
  let whole := digitsValue n.whole
  if n.fraction.isNone ∧ n.exponent.isNone ∧ ¬ n.negative ∧ whole < UInt64.size then
    some (.integer whole)
  else if n.fraction.isNone ∧ n.exponent.isNone ∧ n.negative ∧ 0 < whole ∧ whole ≤ Nat.pow 2 63 then
    some (.integer (-whole))
  else n.size?.map (.floating n.negative)

/-- The numeral of a natural number. -/
def ofNat (n : Nat) : Numeral := ⟨false, Nat.toDigits 10 n, none, none⟩

/-- The spelling of a numeral. -/
def text (n : Numeral) : List Char :=
  (if n.negative then ['-'] else []) ++ n.whole ++
    n.fraction.elim [] ('.' :: ·) ++
    n.exponent.elim [] (fun e => 'e' :: (if e.1 then '-' :: e.2 else e.2))

end Numeral

end Json

end ModuleBuild
