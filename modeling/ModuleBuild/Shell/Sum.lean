import ModuleBuild.Shell.Field
import ModuleBuild.Shell.State
import ModuleBuild.Text.Conversion

/-!
# Sums

A sum is made of numbers and variables, of operators between them, and of parentheses. Its numbers
have 64 bits and go round. A part that does not count, such as the side of a choice that is not
taken, is read without being worked out.

## Main definitions

* `Shell.Term` — a piece of a sum
* `Shell.numberOf?` — the number that a text spells
* `Shell.sumOf` — works out a sum

## Implementation notes

An operator is worked out as soon as the one behind it is known not to bind its right side more
closely, so the first error from the left is the one that is told.
-/

namespace ModuleBuild

namespace Shell

/-- A piece of a sum. -/
inductive Term where
  /-- A number. -/
  | number (n : Int64)
  /-- A variable. -/
  | variable (name : String)
  /-- An operator or a parenthesis. -/
  | sign (text : String)
  deriving DecidableEq

/-! ### Numbers -/

/-- The nearest number with 64 bits. -/
def clamp (n : Int) : Int64 := Int64.ofInt (max Int64.minValue.toInt (min n Int64.maxValue.toInt))

/-- The number that a text spells, with blanks around it and a sign, and whether it is too great.
An empty text spells zero where that is allowed. -/
def numberOf? (orEmpty : Bool) (text : String) : Option (Int64 × Bool) :=
  let trimmed := text.toList.dropWhile (inClass "space")
  let (negative, digits) : Bool × List Char :=
    match trimmed with
    | '-' :: rest => (true, rest)
    | '+' :: rest => (false, rest)
    | rest => (false, rest)
  match digits with
  | [] => if orEmpty ∧ trimmed = [] then some (0, false) else none
  | c :: _ =>
    if !c.isDigit then none
    else
      let (n, rest) := Conversion.wholeAt digits
      if rest.all (inClass "space") then
        let i : Int := if negative then -(n : Int) else n
        some (clamp i, i < Int64.minValue.toInt || Int64.maxValue.toInt < i)
      else none

/-! ### Pieces -/

/-- The operators, the longer ones first. -/
def signs : List String :=
  ["<<=", ">>=", "||", "&&", "==", "!=", "<=", ">=", "<<", ">>", "+=", "-=", "*=", "/=", "%=", "&=",
    "|=", "^=", "(", ")", "*", "/", "%", "+", "-", "<", ">", "&", "^", "|", "!", "~", "?", ":", "="]

/-- The operator at the front. -/
def sign? (cs : List Char) : Option String := signs.find? fun s => s.toList.isPrefixOf cs

/-- The pieces of a sum; `fuel` bounds their number. A character that belongs to none is one by
itself. -/
def termsFrom : Nat → List Char → List Term
  | 0, _ => []
  | _, [] => []
  | fuel + 1, c :: rest =>
    if isBlank c then termsFrom fuel rest
    else if c.isDigit then
      let (n, rest) := Conversion.wholeAt (c :: rest)
      .number (clamp n) :: termsFrom fuel rest
    else if beginsName c then
      .variable (String.ofList (c :: rest.takeWhile inName)) ::
        termsFrom fuel (rest.dropWhile inName)
    else
      match sign? (c :: rest) with
      | some s => .sign s :: termsFrom fuel (rest.drop (s.length - 1))
      | none => .sign (String.singleton c) :: termsFrom fuel rest

/-! ### Operators -/

/-- How closely an operator between two numbers binds them; the least number binds most. -/
def binding? (t : Term) : Option (String × Nat) :=
  match t with
  | .sign s =>
    (match s with
      | "*" => some 0
      | "/" => some 0
      | "%" => some 0
      | "+" => some 1
      | "-" => some 1
      | "<<" => some 2
      | ">>" => some 2
      | "<" => some 3
      | "<=" => some 3
      | ">" => some 3
      | ">=" => some 3
      | "==" => some 4
      | "!=" => some 4
      | "&" => some 5
      | "^" => some 6
      | "|" => some 7
      | _ => none).map (s, ·)
  | _ => none

/-- What an operator makes of two numbers. Nothing can be divided by zero. -/
def combine? (operator : String) (a b : Int64) : Option Int64 :=
  let truth (p : Bool) : Int64 := if p then 1 else 0
  match operator with
  | "*" => some (a * b)
  | "/" => if b = 0 then none else some (a / b)
  | "%" => if b = 0 then none else some (a % b)
  | "+" => some (a + b)
  | "-" => some (a - b)
  | "<<" => some (a <<< b)
  | ">>" => some (a >>> b)
  | "<" => some (truth (a < b))
  | "<=" => some (truth (a ≤ b))
  | ">" => some (truth (b < a))
  | ">=" => some (truth (b ≤ a))
  | "==" => some (truth (a = b))
  | "!=" => some (truth (a ≠ b))
  | "&" => some (a &&& b)
  | "^" => some (a ^^^ b)
  | "|" => some (a ||| b)
  | _ => none

/-- The operator of an assignment, empty for one that only assigns. -/
def assigning? (t : Term) : Option String :=
  match t with
  | .sign "=" => some ""
  | .sign s =>
    if ["<<=", ">>=", "+=", "-=", "*=", "/=", "%=", "&=", "|=", "^="].contains s then
      some (s.dropEnd 1).toString
    else none
  | _ => none

/-! ### Working out -/

/-- A value, and the pieces behind what it has been worked out from. -/
abbrev Valued := Act (Int64 × List Term)

/-- A sum that is worked out. -/
structure Working where
  /-- The text of the sum. -/
  text : String
  /-- Whether the values count. -/
  counts : Bool

/-- A sum that is wrong. -/
def Working.refuse {α : Type} (w : Working) (message : String) : Act α :=
  fault ("arithmetic expression: " ++ message ++ ": \"" ++ w.text ++ "\"")

/-- The same sum with values that count as far as they did, and under a condition. -/
def Working.also (w : Working) (p : Bool) : Working := { w with counts := w.counts && p }

/-- The number in a variable. -/
def numberIn (name : String) : Act Int64 := do
  let st ← get
  match st.value? name with
  | none =>
    if st.hasOption 'u' then fault (name ++ ": parameter not set")
    return 0
  | some text =>
    match numberOf? true text with
    | some (n, false) => return n
    | _ => fault ("Illegal number: " ++ text)

/-- What an operator makes of two numbers, if they count. -/
def Working.combined (w : Working) (operator : String) (a b : Int64) : Act Int64 := do
  if !w.counts then return b
  match combine? operator a b with
  | some n => return n
  | none => w.refuse "division by zero"

/-- A number, a variable, or something in parentheses or behind a sign; `whole` works out what is in
the parentheses, and `fuel` bounds the number of signs. -/
def primary (whole : Working → List Term → Valued) (w : Working) : Nat → List Term → Valued
  | 0, _ => w.refuse "expecting primary"
  | fuel + 1, ts => do
    match ts with
    | .number n :: rest => return (n, rest)
    | .variable name :: rest =>
      if w.counts then return (← numberIn name, rest) else return (0, rest)
    | .sign "(" :: rest =>
      match ← whole w rest with
      | (n, .sign ")" :: rest) => return (n, rest)
      | _ => w.refuse "expecting ')'"
    | .sign "+" :: rest => primary whole w fuel rest
    | .sign "-" :: rest =>
      let (n, rest) ← primary whole w fuel rest
      return (-n, rest)
    | .sign "!" :: rest =>
      let (n, rest) ← primary whole w fuel rest
      return (if n = 0 then 1 else 0, rest)
    | .sign "~" :: rest =>
      let (n, rest) ← primary whole w fuel rest
      return (~~~n, rest)
    | _ => w.refuse "expecting primary"

/-- What is worked out behind a left side by operators that bind more closely than `level`; `fuel`
bounds their number. -/
def operated (whole : Working → List Term → Valued) (w : Working) :
    Nat → Nat → Int64 → List Term → Valued
  | 0, _, _, _ => w.refuse "expecting primary"
  | fuel + 1, level, a, ts => do
    match ts.head?.bind binding? with
    | none => return (a, ts)
    | some (operator, here) =>
      if level ≤ here then return (a, ts)
      let (b, rest) ← primary whole w (ts.length + 1) ts.tail
      let (b, rest) ←
        match rest.head?.bind binding? with
        | some (_, next) =>
          if next < here then operated whole w fuel here b rest else pure (b, rest)
        | none => pure (b, rest)
      operated whole w fuel level (← w.combined operator a b) rest

/-- Two sides of which the second counts only as the first comes out; `fuel` bounds how many sides
there are. -/
def sides (operator : String) (goesOn : Bool → Bool) (one : Working → List Term → Valued)
    (w : Working) : Nat → List Term → Valued
  | 0, _ => w.refuse "expecting primary"
  | fuel + 1, ts => do
    let (a, rest) ← one w ts
    if rest.head? = some (.sign operator) then
      let (b, rest) ← sides operator goesOn one (w.also (goesOn (a != 0))) fuel rest.tail
      let holds := if goesOn (a != 0) then b != 0 else a != 0
      return (if holds then 1 else 0, rest)
    else return (a, rest)

/-- A choice between two values; `fuel` bounds how many there are. -/
def choice (whole : Working → List Term → Valued) (w : Working) : Nat → List Term → Valued
  | 0, _ => w.refuse "expecting primary"
  | fuel + 1, ts => do
    let products (w : Working) (ts : List Term) : Valued := do
      let (a, rest) ← primary whole w (ts.length + 1) ts
      operated whole w (rest.length + 1) 8 a rest
    let both (w : Working) (ts : List Term) : Valued := sides "&&" id products w ts.length.succ ts
    let (a, rest) ← sides "||" (!·) both w ts.length.succ ts
    match rest with
    | .sign "?" :: rest =>
      match ← whole (w.also (a != 0)) rest with
      | (b, .sign ":" :: rest) =>
        let (c, rest) ← choice whole (w.also (a == 0)) fuel rest
        return (if a != 0 then b else c, rest)
      | _ => w.refuse "expecting ':'"
    | _ => return (a, rest)

/-- A sum that may assign its value to a variable; `fuel` bounds how deep it is. -/
def assignment : Nat → Working → List Term → Valued
  | 0, w, _ => w.refuse "expecting primary"
  | fuel + 1, w, ts => do
    match ts with
    | .variable name :: t :: rest =>
      match assigning? t with
      | some operator =>
        let (b, rest) ← assignment fuel w rest
        if !w.counts then return (b, rest)
        let n ← if operator = "" then pure b else w.combined operator (← numberIn name) b
        assign name (toString n.toInt)
        return (n, rest)
      | none => choice (assignment fuel) w ts.length.succ ts
    | _ => choice (assignment fuel) w ts.length.succ ts

/-- Works out a sum. -/
def sumOf (text : String) : Act Int64 := do
  let terms := termsFrom text.length text.toList
  let w : Working := { text, counts := true }
  let (n, rest) ← assignment (terms.length + 1) w terms
  if rest.isEmpty then return n else w.refuse "expecting EOF"

end Shell

end ModuleBuild
