import ModuleBuild.Number.Binary64
import ModuleBuild.Text.Conversion

/-!
# Formats

A format is a text that says how arguments are written. A percent sign in it begins a conversion, a
backslash an escape, and everything else stands for itself. A format is gone through as often as
there are arguments for it. An argument that does not fit is told about, and counts as far as it
fits.

## Main definitions

* `Format.Rules` — what may differ between formats
* `Format.Piece` — what a format comes to: texts, and arguments that do not fit
* `Format.apply` — what a format makes of arguments
-/

namespace ModuleBuild

namespace Format

/-- Why an argument does not fit. -/
inductive Misfit where
  /-- It is no number. -/
  | notNumeric
  /-- It is a number with something behind it. -/
  | unfinished
  /-- It is too large. -/
  | outOfRange
  deriving DecidableEq

/-- A part of what a format comes to. -/
inductive Piece where
  /-- A text that is written. -/
  | text (s : String)
  /-- An argument that does not fit. -/
  | misfit (why : Misfit) (argument : String)

/-- How a format ends. -/
inductive Finish where
  /-- With its last character. -/
  | complete
  /-- With an escape behind which nothing is written. -/
  | stopped
  /-- With a conversion that there is not. -/
  | unknown (spelling : String)
  /-- In the middle of a conversion. -/
  | unclosed (spelling : String)
  deriving DecidableEq

/-- What may differ between formats. -/
structure Rules where
  /-- What stands for an escape behind its backslash, and what is left, unless the escape says that
  nothing follows. -/
  escape : List Char → Option (String × List Char)
  /-- A text with its escapes replaced, and whether an escape says that nothing follows. -/
  expand : String → String × Bool
  /-- The fraction that a number times a power of ten is taken as. -/
  fraction : Nat → Int → Nat × Nat
  /-- How texts are written by other conversions. -/
  texts : List (Char × (String → String))

/-- Where one is in a format: what has come so far, the last piece first, and the arguments that are
left. -/
structure Progress where
  /-- What has come so far. -/
  pieces : List Piece := []
  /-- The arguments that are left. -/
  arguments : List String

/-- A step through a format, which may be the last one. -/
abbrev Step (α : Type) := StateT Progress (Except (Finish × Progress)) α

/-- Ends a format. -/
def finish {α : Type} (f : Finish) : Step α := do throw (f, ← get)

/-- Adds a piece. -/
def put (p : Piece) : Step Unit := modify fun s => { s with pieces := p :: s.pieces }

/-- The next argument. -/
def next : Step (Option String) := do
  let s ← get
  match s.arguments with
  | [] => return none
  | a :: rest =>
    set { s with arguments := rest }
    return some a

/-! ### Numbers -/

/-- Whether a character is a blank in front of a number. -/
def isBlank (c : Char) : Bool := c == ' ' || (9 ≤ c.toNat && c.toNat ≤ 13)

/-- The next argument as a number. A quote stands for the number of the byte behind it. -/
def nextNumber (signed : Bool) : Step Int := do
  match ← next with
  | none => return 0
  | some a =>
    match a.toList with
    | [] => return 0
    | c :: rest =>
      if c = '"' ∨ c = '\x27' then return ((rest.head?.map Char.toNat).getD 0)
      let digits := a.toList.dropWhile isBlank
      let negative := digits.head? = some '-'
      let digits := if digits.head?.any (fun c => c == '-' || c == '+') then digits.tail else digits
      if !(digits.head?.any Char.isDigit) then
        put (.misfit .notNumeric a)
        return 0
      let (n, rest) := Conversion.wholeAt digits
      let i : Int := if negative then -(n : Int) else n
      let low : Int := if signed then Int64.minValue.toInt else 1 - UInt64.size
      let high : Int := if signed then Int64.maxValue.toInt else UInt64.size - 1
      let bounded := if i < low then (if signed then low else high) else min i high
      if !rest.isEmpty then put (.misfit .unfinished a)
      else if i < low ∨ high < i then put (.misfit .outOfRange a)
      return if signed then bounded else bounded % UInt64.size

/-- The next argument as a fraction, and whether it is negative. -/
def nextReal (rules : Rules) : Step (Bool × Nat × Nat) := do
  match ← next with
  | none => return (false, 0, 1)
  | some a =>
    match a.toList with
    | [] => return (false, 0, 1)
    | c :: rest =>
      if c = '"' ∨ c = '\x27' then return (false, (rest.head?.map Char.toNat).getD 0, 1)
      match Conversion.decimalAt? (a.toList.dropWhile isBlank) with
      | none =>
        put (.misfit .notNumeric a)
        return (false, 0, 1)
      | some (negative, digits, power, rest) =>
        if !rest.isEmpty then put (.misfit .unfinished a)
        return (negative, rules.fraction digits power)

/-- The nearest double to a number times a power of ten, as a fraction. -/
def doubleFraction (digits : Nat) (power : Int) : Nat × Nat :=
  match Binary64.ofDecimal? digits power with
  | some b => (b.mantissa * Nat.pow 2 b.exponent.toNat, Nat.pow 2 (-b.exponent).toNat)
  | none => (0, 1)

/-- The number of an amount. -/
def amount : Conversion.Amount → Step (Option Int)
  | .fixed n => return some n
  | .argument => return some (← nextNumber true)
  | .absent => return none

/-! ### Conversions -/

/-- Writes the next argument as a conversion says. -/
def convert (rules : Rules) (spelling : String) (c : Conversion) : Step Unit := do
  match c.kind with
  | 's' => put (.text (c.text ((← next).getD "")))
  | 'b' =>
    let (text, stops) := rules.expand ((← next).getD "")
    put (.text (c.text text))
    if stops then finish .stopped
  | 'c' =>
    let text := ((← next).getD "").toList.take 1
    let text := String.ofList (if text = [] then ['\x00'] else text)
    put (.text ({ c with precision := none }.text text))
  | kind =>
    if kind = 'd' ∨ kind = 'i' then put (.text (c.whole (← nextNumber true)))
    else if ['o', 'u', 'x', 'X'].contains kind then put (.text (c.whole (← nextNumber false)))
    else if ['e', 'E', 'f', 'F', 'g', 'G'].contains kind then
      let (negative, num, den) ← nextReal rules
      put (.text (c.real negative num den))
    else
      match rules.texts.lookup kind with
      | some shown => put (.text (c.text (shown ((← next).getD ""))))
      | none => finish (.unknown spelling)

/-- Writes the conversion behind a percent sign, and gives what is left. -/
def conversionAt (rules : Rules) (cs : List Char) : Step (List Char) := do
  let (flags, width, precision, after) := Conversion.amountsOf cs
  let width ← amount width
  let precision ← amount precision
  match after with
  | [] => finish (.unclosed ("%" ++ String.ofList cs))
  | kind :: after =>
    let spelling := "%" ++ String.ofList (cs.take (cs.length - after.length))
    let flags := if width.any (· < 0) then '-' :: flags else flags
    let width := (width.getD 0).natAbs
    let precision := (precision.filter (0 ≤ ·)).map Int.toNat
    convert rules spelling { flags, width, precision, kind }
    return after

/-- Goes through a format once; `fuel` bounds its length. -/
def once (rules : Rules) : Nat → List Char → Step Unit
  | 0, _ => return
  | _, [] => return
  | fuel + 1, '\\' :: rest => do
    match rules.escape rest with
    | none => finish .stopped
    | some (text, rest) =>
      put (.text text)
      once rules fuel rest
  | fuel + 1, '%' :: '%' :: rest => do
    put (.text "%")
    once rules fuel rest
  | fuel + 1, '%' :: rest => do
    let rest ← conversionAt rules rest
    once rules fuel rest
  | fuel + 1, c :: rest => do
    put (.text (String.singleton c))
    once rules fuel rest

/-- Goes through a format as often as there are arguments; `fuel` bounds how often. -/
def often (rules : Rules) (format : List Char) : Nat → Step Unit
  | 0 => return
  | fuel + 1 => do
    let before := (← get).arguments.length
    once rules format.length format
    let left := (← get).arguments.length
    if 0 < left && left < before then often rules format fuel

/-- What a format makes of arguments: its pieces, the arguments that are left, and how it ends. -/
def apply (rules : Rules) (format : String) (arguments : List String) :
    List Piece × List String × Finish :=
  match (often rules format.toList (arguments.length + 1)).run { arguments } with
  | .ok (_, s) => (s.pieces.reverse, s.arguments, .complete)
  | .error (f, s) => (s.pieces.reverse, s.arguments, f)

/-- The texts among pieces, put together. -/
def textOf (pieces : List Piece) : String :=
  "".intercalate (pieces.filterMap fun
    | .text s => some s
    | .misfit .. => none)

end Format

end ModuleBuild
