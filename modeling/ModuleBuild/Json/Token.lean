import ModuleBuild.Digest.Hex
import ModuleBuild.Json.Numeral

/-!
# The words of a JSON document

A document is taken apart into tokens before it is read. Where the text of a token is wrong, the
token says so, and nothing comes after it: a reader that never gets that far is not disturbed, and
one that does reports the fault at its place.

## Main definitions

* `Json.Token` — brackets, commas, colons, and the spelled values
* `Json.Fault` — a text that ends too early, or is wrong
* `Json.tokens` — the tokens of a text

## Implementation notes

A reader that skips a value is content with less than one that needs it: half a surrogate pair in a
text does no harm then, and a numeral that breaks off counts as wrong rather than as too short. The
tokens keep what is needed to tell both.
-/

namespace ModuleBuild

namespace Json

/-- What can be wrong with the text of a document. -/
inductive Fault where
  /-- It ends where something must follow. -/
  | endOfText
  /-- It has something that cannot stand where it stands. -/
  | malformed
  deriving DecidableEq

/-- One word of a document. -/
inductive Token where
  /-- An opening brace. -/
  | openBrace
  /-- A closing brace. -/
  | closeBrace
  /-- An opening bracket. -/
  | openBracket
  /-- A closing bracket. -/
  | closeBracket
  /-- A comma. -/
  | comma
  /-- A colon. -/
  | colon
  /-- The word for no value. -/
  | null
  /-- A truth value. -/
  | bool (b : Bool)
  /-- A number. -/
  | number (n : Numeral)
  /-- A text. -/
  | text (s : String)
  /-- A text with half a surrogate pair, which spells no character. -/
  | halfText
  /-- A word that goes wrong. -/
  | brokenWord (fault : Fault)
  /-- A number that goes wrong. -/
  | brokenNumber (fault : Fault)
  /-- A text that goes wrong, for one who reads it and for one who skips it. -/
  | brokenText (read skipped : Fault)
  /-- A character that begins no token. -/
  | stray
  deriving DecidableEq

/-! ### Words and numbers -/

/-- The blanks between tokens. -/
def isSpace (c : Char) : Bool := c == ' ' || c == '\t' || c == '\n' || c == '\r'

/-- Whether a character is a decimal digit. -/
def isDigit (c : Char) : Bool := '0'.toNat ≤ c.toNat && c.toNat ≤ '9'.toNat

/-- A word that must go on with the given characters. -/
def scanWord (token : Token) : List Char → List Char → Token × List Char
  | [], rest => (token, rest)
  | _ :: _, [] => (.brokenWord .endOfText, [])
  | e :: expected, c :: rest =>
    if c = e then scanWord token expected rest else (.brokenWord .malformed, [])

/-- What is wrong where a digit is missing. -/
def missingDigit (rest : List Char) : Token :=
  .brokenNumber (if rest.isEmpty then .endOfText else .malformed)

/-- The exponent of a number, after its mark. -/
def scanExponent (n : Numeral) (cs : List Char) : Token × List Char :=
  let (down, cs) := match cs with
    | '-' :: rest => (true, rest)
    | '+' :: rest => (false, rest)
    | _ => (false, cs)
  let rest := cs.dropWhile isDigit
  match cs.takeWhile isDigit with
  | [] => (missingDigit rest, rest)
  | digits => (.number { n with exponent := some (down, digits) }, rest)

/-- What follows the digits of a number: perhaps an exponent. -/
def scanAfterDigits (n : Numeral) (cs : List Char) : Token × List Char :=
  match cs with
  | 'e' :: rest => scanExponent n rest
  | 'E' :: rest => scanExponent n rest
  | _ => (.number n, cs)

/-- What follows the digits before the point: perhaps a fraction. -/
def scanAfterWhole (n : Numeral) (cs : List Char) : Token × List Char :=
  match cs with
  | '.' :: rest =>
    let after := rest.dropWhile isDigit
    match rest.takeWhile isDigit with
    | [] => (missingDigit after, after)
    | digits => scanAfterDigits { n with fraction := some digits } after
  | _ => scanAfterDigits n cs

/-- A number after its sign. A zero in front stands alone. -/
def scanNumber (negative : Bool) (cs : List Char) : Token × List Char :=
  let rest := cs.dropWhile isDigit
  match cs.takeWhile isDigit with
  | [] => (missingDigit rest, rest)
  | '0' :: _ :: _ => (.brokenNumber .malformed, rest)
  | digits => scanAfterWhole ⟨negative, digits, none, none⟩ rest

/-! ### Texts -/

/-- The character that an escape letter stands for. -/
def escaped? (c : Char) : Option Char :=
  match c with
  | '"' => some '"'
  | '\\' => some '\\'
  | '/' => some '/'
  | 'b' => some '\x08'
  | 'f' => some '\x0c'
  | 'n' => some '\n'
  | 'r' => some '\r'
  | 't' => some '\t'
  | _ => none

/-- The number that four digits spell. -/
def fourDigits? (a b c d : Char) : Option Nat := do
  return 4096 * (← Hex.value? a) + 256 * (← Hex.value? b) + 16 * (← Hex.value? c) + (← Hex.value? d)

/-- What is wrong where four digits are missing: the text ends, if it has fewer than four bytes. -/
def missingDigits (rest : List Char) : Fault :=
  if (rest.take 4).foldl (fun n c => n + c.utf8Size) 0 < 4 then .endOfText else .malformed

/-- Whether a number is the first half of a surrogate pair. -/
def isHighHalf (n : Nat) : Bool := 0xD800 ≤ n && n ≤ 0xDBFF

/-- Whether a number is the second half of a surrogate pair. -/
def isLowHalf (n : Nat) : Bool := 0xDC00 ≤ n && n ≤ 0xDFFF

/-- The character of a surrogate pair. -/
def pairChar (high low : Nat) : Char :=
  Char.ofNat (0x10000 + (high - 0xD800) * 0x400 + (low - 0xDC00))

/-- A text that goes wrong. One who reads it stops at half a pair before that. -/
def broken (half : Bool) (fault : Fault) : Token × List Char :=
  (.brokenText (if half then .malformed else fault) fault, [])

/-- A text after its opening quote. `read` has the characters so far, the last one first; `high` is
the first half of a pair that awaits its second; `half` says whether a half has stood alone. -/
def scanText (read : List Char) (high : Option Nat) (half : Bool) : List Char → Token × List Char
  | [] => broken half .endOfText
  | c :: rest =>
    let alone := half || high.isSome
    if c = '"' then
      (if alone then .halfText else .text (String.ofList read.reverse), rest)
    else if c = '\\' then
      match rest with
      | [] => broken half .endOfText
      | e :: rest =>
        if e = 'u' then
          match rest with
          | a :: b :: c :: d :: rest' =>
            match fourDigits? a b c d with
            | none => broken half (missingDigits rest)
            | some n =>
              match high with
              | some first =>
                if isLowHalf n then scanText (pairChar first n :: read) none half rest'
                else scanText read none true rest'
              | none =>
                if isHighHalf n then scanText read (some n) half rest'
                else if isLowHalf n then scanText read none true rest'
                else scanText (Char.ofNat n :: read) none half rest'
          | _ => broken half (missingDigits rest)
        else
          match escaped? e with
          | none => broken half .malformed
          | some c => scanText (c :: read) none alone rest
    else if c.toNat < 0x20 then broken half .malformed
    else scanText (c :: read) none alone rest

/-! ### Whole documents -/

/-- The token that begins with a character, and what follows it. -/
def scan (c : Char) (rest : List Char) : Token × List Char :=
  match c with
  | '\x7b' => (.openBrace, rest)
  | '\x7d' => (.closeBrace, rest)
  | '[' => (.openBracket, rest)
  | ']' => (.closeBracket, rest)
  | ',' => (.comma, rest)
  | ':' => (.colon, rest)
  | 'n' => scanWord .null ['u', 'l', 'l'] rest
  | 't' => scanWord (.bool true) ['r', 'u', 'e'] rest
  | 'f' => scanWord (.bool false) ['a', 'l', 's', 'e'] rest
  | '"' => scanText [] none false rest
  | '-' => scanNumber true rest
  | _ => if isDigit c then scanNumber false (c :: rest) else (.stray, rest)

theorem length_scanWord_le (token : Token) (expected cs : List Char) :
    (scanWord token expected cs).2.length ≤ cs.length := by
  fun_induction scanWord token expected cs <;> simp_all
  omega

theorem length_dropWhile_le (p : Char → Bool) (cs : List Char) :
    (cs.dropWhile p).length ≤ cs.length := (List.dropWhile_suffix p).length_le

theorem length_scanExponent_le (n : Numeral) (cs : List Char) :
    (scanExponent n cs).2.length ≤ cs.length := by
  unfold scanExponent
  split
  rename_i down cs' h
  have hle : cs'.length ≤ cs.length := by
    split at h <;> cases h <;> simp
  have := length_dropWhile_le isDigit cs'
  split <;> simp_all <;> omega

theorem length_scanAfterDigits_le (n : Numeral) (cs : List Char) :
    (scanAfterDigits n cs).2.length ≤ cs.length := by
  unfold scanAfterDigits
  split
  · exact Nat.le_succ_of_le (length_scanExponent_le n _)
  · exact Nat.le_succ_of_le (length_scanExponent_le n _)
  · exact Nat.le_refl _

theorem length_scanAfterWhole_le (n : Numeral) (cs : List Char) :
    (scanAfterWhole n cs).2.length ≤ cs.length := by
  unfold scanAfterWhole
  split
  · rename_i rest
    have h := length_dropWhile_le isDigit rest
    split
    · exact Nat.le_succ_of_le h
    · exact Nat.le_succ_of_le (Nat.le_trans (length_scanAfterDigits_le _ _) h)
  · exact length_scanAfterDigits_le n cs

theorem length_scanNumber_le (negative : Bool) (cs : List Char) :
    (scanNumber negative cs).2.length ≤ cs.length := by
  unfold scanNumber
  have h := length_dropWhile_le isDigit cs
  split
  · exact h
  · exact h
  · exact Nat.le_trans (length_scanAfterWhole_le _ _) h

theorem length_scanText_le (read : List Char) (high : Option Nat) (half : Bool) (cs : List Char) :
    (scanText read high half cs).2.length ≤ cs.length := by
  fun_induction scanText read high half cs <;> simp_all [broken] <;> omega

/-- The text gets shorter with every token. -/
theorem length_scan_lt (c : Char) (rest : List Char) : (scan c rest).2.length ≤ rest.length := by
  unfold scan
  split <;> first
    | exact Nat.le_refl _
    | exact length_scanWord_le _ _ _
    | exact length_scanText_le _ _ _ _
    | exact length_scanNumber_le _ _
    | skip
  split
  · rename_i h
    unfold scanNumber
    have hd := length_dropWhile_le isDigit rest
    simp only [List.dropWhile_cons, List.takeWhile_cons, h, if_true]
    split
    · exact hd
    · exact hd
    · exact Nat.le_trans (length_scanAfterWhole_le _ _) hd
  · exact Nat.le_refl _

/-- The tokens of a text. -/
def tokens : List Char → List Token
  | [] => []
  | c :: rest =>
    if isSpace c then tokens rest
    else (scan c rest).1 :: tokens (scan c rest).2
termination_by cs => cs.length
decreasing_by
  · simp
  · exact Nat.lt_succ_of_le (length_scan_lt c rest)

end Json

end ModuleBuild
