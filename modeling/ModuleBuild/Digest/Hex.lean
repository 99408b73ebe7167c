import ModuleBuild.Text.Utf8

/-!
# Bytes in hexadecimal

Each byte is written as two digits, the higher first. Writing uses small letters, reading takes
letters of either case.

## Main definitions

* `Hex.isDigit` — the digits
* `Hex.encode` — the digits of a byte sequence
* `Hex.decode?` — the bytes that a list of digits spells

## Main results

* `Hex.length_encode` — two digits for a byte
* `Hex.decode?_encode` — the bytes are read back from their digits
* `Hex.exists_decode?_iff` — which digits spell bytes
* `Hex.encode_of_decode?` — and that these bytes are written with the same digits
-/

namespace ModuleBuild

namespace Hex

/-- The digit for a value below sixteen. -/
def digit (n : Nat) : Char := if n < 10 then Char.ofNat (48 + n) else Char.ofNat (87 + n)

/-- The value of a hexadecimal digit of either case. -/
def value? (c : Char) : Option Nat :=
  let n := c.toNat
  if 48 ≤ n ∧ n ≤ 57 then some (n - 48)
  else if 97 ≤ n ∧ n ≤ 102 then some (n - 87)
  else if 65 ≤ n ∧ n ≤ 70 then some (n - 55)
  else none

/-- Whether a character is a hexadecimal digit, of either case. -/
def isDigit (c : Char) : Bool :=
  ('0' ≤ c && c ≤ '9') || ('a' ≤ c && c ≤ 'f') || ('A' ≤ c && c ≤ 'F')

/-- Two digits for each byte. -/
def encode : Bytes → List Char
  | [] => []
  | b :: rest => digit (b.toNat / 16) :: digit (b.toNat % 16) :: encode rest

/-- The bytes spelled by pairs of digits, unless a digit is odd or is none. -/
def decode? : List Char → Option Bytes
  | [] => some []
  | [_] => none
  | c :: d :: rest => do
    let high ← value? c
    let low ← value? d
    let bytes ← decode? rest
    return UInt8.ofNat (16 * high + low) :: bytes

/-- A text as one number in base sixteen, unless a character is no digit. -/
def number? (cs : List Char) : Option Nat :=
  cs.foldlM (fun n c => (value? c).map (16 * n + ·)) 0

/-! ### Reading back -/

@[simp] theorem length_encode (bytes : Bytes) : (encode bytes).length = 2 * bytes.length := by
  induction bytes with
  | nil => rfl
  | cons b rest ih => simp [encode, ih]; omega

/-- Every character of the text is a digit for a value. -/
theorem exists_digit_of_mem_encode {bytes : Bytes} {c : Char} (h : c ∈ encode bytes) :
    ∃ n < 16, c = digit n := by
  induction bytes with
  | nil => simp [encode] at h
  | cons b rest ih =>
    have hb : b.toNat < 256 := b.toNat_lt
    simp only [encode, List.mem_cons] at h
    rcases h with rfl | rfl | h
    · exact ⟨_, by omega, rfl⟩
    · exact ⟨_, by omega, rfl⟩
    · exact ih h

theorem value?_digit {n : Nat} (h : n < 16) : value? (digit n) = some n := by
  have : ∀ m : Fin 16, value? (digit m.val) = some m.val := by decide
  exact this ⟨n, h⟩

theorem decode?_encode (bytes : Bytes) : decode? (encode bytes) = some bytes := by
  induction bytes with
  | nil => rfl
  | cons b rest ih =>
    have hb : b.toNat < 256 := b.toNat_lt
    have hn : 16 * (b.toNat / 16) + b.toNat % 16 = b.toNat := by omega
    simp only [encode, decode?, ih, value?_digit (show b.toNat / 16 < 16 by omega),
      value?_digit (show b.toNat % 16 < 16 by omega), Option.bind_eq_bind, Option.bind_some, hn,
      UInt8.ofNat_toNat]
    rfl

/-! ### Which digits spell bytes -/

section

variable {c d : Char} {n : Nat} {cs : List Char} {bytes : Bytes}

theorem isDigit_iff : isDigit c = true ↔
    (48 ≤ c.toNat ∧ c.toNat ≤ 57) ∨ (97 ≤ c.toNat ∧ c.toNat ≤ 102) ∨
      (65 ≤ c.toNat ∧ c.toNat ≤ 70) := by
  have htoNat : c.val.toNat = c.toNat := rfl
  simp only [isDigit, Bool.or_eq_true, Bool.and_eq_true, decide_eq_true_eq, Char.le_def,
    UInt32.le_iff_toNat_le, htoNat, or_assoc]
  rfl

theorem isSome_value? (c : Char) : (value? c).isSome = isDigit c := by
  rw [Bool.eq_iff_iff, isDigit_iff]
  unfold value?
  dsimp only
  split
  · simp_all
  split
  · simp_all
  split
  · simp_all
  · simp_all

/-- The value of a digit gives the digit back, as a small letter. -/
theorem digit_of_value? (h : value? c = some n) : n < 16 ∧ digit n = c.toLower := by
  have hall : ∀ m : Fin 128, (value? (Char.ofNat m.val)).all
      (fun n => n < 16 ∧ digit n = (Char.ofNat m.val).toLower) = true := by decide +kernel
  have hdigit : isDigit c = true := by rw [← isSome_value?, h]; rfl
  have hlt : c.toNat < 128 := by
    rcases isDigit_iff.1 hdigit with hc | hc | hc <;> omega
  have hvalue := hall ⟨c.toNat, hlt⟩
  rw [Char.ofNat_toNat, h] at hvalue
  simpa using hvalue

theorem decode?_cons_cons_eq_some :
    decode? (c :: d :: cs) = some bytes ↔ ∃ high low rest, value? c = some high ∧
      value? d = some low ∧ decode? cs = some rest ∧
      bytes = UInt8.ofNat (16 * high + low) :: rest := by
  simp only [decode?, Option.bind_eq_bind, Option.bind_eq_some_iff]
  constructor
  · rintro ⟨high, hhigh, low, hlow, rest, hrest, hbytes⟩
    exact ⟨high, low, rest, hhigh, hlow, hrest, (Option.some.inj hbytes).symm⟩
  · rintro ⟨high, low, rest, hhigh, hlow, hrest, rfl⟩
    exact ⟨high, hhigh, low, hlow, rest, hrest, rfl⟩

/-- Which texts spell bytes: those of digits only, an even number of them. -/
theorem exists_decode?_iff :
    (∃ bytes, decode? cs = some bytes) ↔ cs.length % 2 = 0 ∧ ∀ c ∈ cs, isDigit c = true := by
  induction cs using decode?.induct with
  | case1 => simp [decode?]
  | case2 c => simp [decode?]
  | case3 c d rest ih =>
    simp only [decode?_cons_cons_eq_some, List.length_cons, List.forall_mem_cons, ← isSome_value?,
      Option.isSome_iff_exists]
    have hlength : (rest.length + 1 + 1) % 2 = rest.length % 2 := by omega
    rw [hlength]
    simp only [← isSome_value?, Option.isSome_iff_exists] at ih
    constructor
    · rintro ⟨bytes, high, low, bytes', hhigh, hlow, hrest, -⟩
      exact ⟨(ih.1 ⟨bytes', hrest⟩).1, ⟨high, hhigh⟩, ⟨low, hlow⟩, (ih.1 ⟨bytes', hrest⟩).2⟩
    · rintro ⟨heven, ⟨high, hhigh⟩, ⟨low, hlow⟩, hdigits⟩
      obtain ⟨bytes', hrest⟩ := ih.2 ⟨heven, hdigits⟩
      exact ⟨_, high, low, bytes', hhigh, hlow, hrest, rfl⟩

/-- Bytes that are spelled by a text are written as it, in small letters. -/
theorem encode_of_decode? (h : decode? cs = some bytes) : encode bytes = cs.map Char.toLower := by
  induction cs using decode?.induct generalizing bytes with
  | case1 =>
    obtain rfl := Option.some.inj h
    rfl
  | case2 c => simp [decode?] at h
  | case3 c d rest ih =>
    obtain ⟨high, low, bytes', hhigh, hlow, hrest, rfl⟩ := decode?_cons_cons_eq_some.1 h
    obtain ⟨hhigh16, hhigh⟩ := digit_of_value? hhigh
    obtain ⟨hlow16, hlow⟩ := digit_of_value? hlow
    have hbyte : (UInt8.ofNat (16 * high + low)).toNat = 16 * high + low :=
      UInt8.toNat_ofNat_of_lt' (show 16 * high + low < 256 by omega)
    have hdiv : (16 * high + low) / 16 = high := by omega
    have hmod : (16 * high + low) % 16 = low := by omega
    rw [encode, hbyte, hdiv, hmod, hhigh, hlow, ih hrest]
    rfl

/-- Two digits for each byte that is read. -/
theorem length_of_decode? (h : decode? cs = some bytes) : cs.length = 2 * bytes.length := by
  rw [← length_encode, encode_of_decode? h, List.length_map]

end

end Hex

end ModuleBuild
