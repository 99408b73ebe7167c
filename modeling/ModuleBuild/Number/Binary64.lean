/-!
# Binary floating-point numbers

A number with 53 binary digits and an exponent between fixed bounds, as a pair of an integer and a
power of two. All arithmetic is exact on natural numbers and then rounded once, to the nearest
number and to the even one of two that are equally near.

## Main definitions

* `Binary64` — a number `mantissa * 2 ^ exponent` that is not negative
* `Binary64.ofRatio?` — the nearest number to a fraction, if it is not too large
* `Binary64.ofDecimal?` — the nearest number to a decimal
* `Binary64.mul?`, `Binary64.div?` — rounded product and quotient
-/

namespace ModuleBuild

/-- A number that is not negative, `mantissa * 2 ^ exponent`. -/
structure Binary64 where
  /-- Fewer than 54 binary digits. -/
  mantissa : Nat
  /-- At least -1074 and at most 971. -/
  exponent : Int
  deriving DecidableEq

namespace Binary64

/-- The number zero. -/
def zero : Binary64 := ⟨0, -1074⟩

/-- The least exponent. -/
def leastExponent : Int := -1074

/-- The greatest exponent. -/
def greatestExponent : Int := 971

/-- The fraction `num / den` divided by a power of two, as a fraction. -/
def scale (num den : Nat) (q : Int) : Nat × Nat :=
  if q ≥ 0 then (num, den * Nat.pow 2 q.toNat) else (num * Nat.pow 2 (-q).toNat, den)

/-- The nearest integer to a fraction, the even one of two. -/
def roundEven (num den : Nat) : Nat :=
  let n := num / den
  let r := 2 * (num % den)
  if r < den then n else if den < r then n + 1 else n + n % 2

/-- The exponent at which a fraction has 53 binary digits before the point. -/
def fittingExponent (num den : Nat) : Int :=
  let guess : Int := (Nat.log2 num : Int) - (Nat.log2 den : Int) - 52
  let (n, d) := scale num den guess
  if n / d < Nat.pow 2 52 then guess - 1 else if n / d < Nat.pow 2 53 then guess else guess + 1

/-- The nearest number to a fraction, unless it is too large to have one. -/
def ofRatio? (num den : Nat) : Option Binary64 :=
  if num = 0 then some zero
  else
    let q := max (fittingExponent num den) leastExponent
    let (n, d) := scale num den q
    let m := roundEven n d
    let (m, q) := if m = Nat.pow 2 53 then (Nat.pow 2 52, q + 1) else (m, q)
    if q > greatestExponent then none else some ⟨m, q⟩

/-- The nearest number to `digits * 10 ^ exponent`, unless it is too large to have one. -/
def ofDecimal? (digits : Nat) (exponent : Int) : Option Binary64 :=
  if digits = 0 then some zero
  else if exponent ≥ 0 then
    if exponent > 400 then none else ofRatio? (digits * Nat.pow 10 exponent.toNat) 1
  else if exponent + (Nat.log2 digits : Int) < -1200 then some zero
  else ofRatio? digits (Nat.pow 10 (-exponent).toNat)

/-- The rounded product. -/
def mul? (a b : Binary64) : Option Binary64 :=
  let (n, d) := scale (a.mantissa * b.mantissa) 1 (-(a.exponent + b.exponent))
  ofRatio? n d

/-- The rounded quotient by a number that is not zero. -/
def div? (a b : Binary64) : Option Binary64 :=
  let (n, d) := scale a.mantissa b.mantissa (b.exponent - a.exponent)
  ofRatio? n d

end Binary64

end ModuleBuild
