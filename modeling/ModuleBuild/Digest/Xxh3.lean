import ModuleBuild.Text.Utf8

/-!
# The XXH3 digest of 128 bits

XXH3 mixes a byte sequence with a fixed secret into two words of 64 bits. Which mixing is used
hangs on the length: four short forms up to 16 bytes, two middle forms up to 240 bytes, and above
that eight running lanes that take 64 bytes at a time and are scrambled after every 1024 bytes.
The seed is zero throughout, so it does not occur.

## Main definitions

* `Xxh3.Word128` — two words of 64 bits
* `Xxh3.digest` — the digest of a byte sequence
-/

namespace ModuleBuild

namespace Xxh3

/-- A number of 128 bits as two words. -/
structure Word128 where
  /-- The 64 bits of lower weight. -/
  low : UInt64
  /-- The 64 bits of higher weight. -/
  high : UInt64
  deriving DecidableEq

/-! ### Words and their places -/

/-- The byte at a place, zero beyond the end. -/
def byteAt (input : ByteArray) (i : Nat) : UInt8 := if h : i < input.size then input[i] else 0

/-- The 32-bit number at a place, the lowest byte first. -/
def read32 (input : ByteArray) (i : Nat) : UInt64 :=
  (byteAt input i).toUInt64 ||| ((byteAt input (i + 1)).toUInt64 <<< 8) |||
    ((byteAt input (i + 2)).toUInt64 <<< 16) ||| ((byteAt input (i + 3)).toUInt64 <<< 24)

/-- The 64-bit number at a place, the lowest byte first. -/
def read64 (input : ByteArray) (i : Nat) : UInt64 :=
  read32 input i ||| (read32 input (i + 4) <<< 32)

/-- The full product of two words. -/
def multiply (a b : UInt64) : Word128 :=
  let p := a.toNat * b.toNat
  ⟨UInt64.ofNat p, UInt64.ofNat (p >>> 64)⟩

/-- The two halves of the full product, combined bit by bit. -/
def foldProduct (a b : UInt64) : UInt64 :=
  let p := multiply a b
  p.low ^^^ p.high

/-- A word combined with itself, moved down. -/
def shiftMix (x : UInt64) (n : UInt64) : UInt64 := x ^^^ (x >>> n)

/-- The low half of a word. -/
def lowHalf (x : UInt64) : UInt64 := x &&& (0xffffffff : UInt64)

/-- The bytes of the low half of a word in the opposite order. -/
def swap32 (x : UInt64) : UInt64 :=
  ((x &&& (0xff : UInt64)) <<< 24) ||| ((x &&& (0xff00 : UInt64)) <<< 8) |||
    ((x >>> 8) &&& (0xff00 : UInt64)) ||| ((x >>> 24) &&& (0xff : UInt64))

/-- The bytes of a word in the opposite order. -/
def swap64 (x : UInt64) : UInt64 := (swap32 (lowHalf x) <<< 32) ||| swap32 (x >>> 32)

/-- The low half of a word, turned left by 13 bits. -/
def rotate13 (x : UInt64) : UInt64 := lowHalf ((x <<< 13) ||| (x >>> 19))

/-! ### Constants -/

/-- The first of the 32-bit primes. -/
def prime32One : UInt64 := 0x9E3779B1
/-- The second of the 32-bit primes. -/
def prime32Two : UInt64 := 0x85EBCA77
/-- The third of the 32-bit primes. -/
def prime32Three : UInt64 := 0xC2B2AE3D
/-- The first of the 64-bit primes. -/
def primeOne : UInt64 := 0x9E3779B185EBCA87
/-- The second of the 64-bit primes. -/
def primeTwo : UInt64 := 0xC2B2AE3D27D4EB4F
/-- The third of the 64-bit primes. -/
def primeThree : UInt64 := 0x165667B19E3779F9
/-- The fourth of the 64-bit primes. -/
def primeFour : UInt64 := 0x85EBCA77C2B2AE63
/-- The fifth of the 64-bit primes. -/
def primeFive : UInt64 := 0x27D4EB2F165667C5

/-- The secret that every input is mixed with. -/
def secret : ByteArray := ⟨#[
  0xb8, 0xfe, 0x6c, 0x39, 0x23, 0xa4, 0x4b, 0xbe, 0x7c, 0x01, 0x81, 0x2c, 0xf7, 0x21, 0xad, 0x1c,
  0xde, 0xd4, 0x6d, 0xe9, 0x83, 0x90, 0x97, 0xdb, 0x72, 0x40, 0xa4, 0xa4, 0xb7, 0xb3, 0x67, 0x1f,
  0xcb, 0x79, 0xe6, 0x4e, 0xcc, 0xc0, 0xe5, 0x78, 0x82, 0x5a, 0xd0, 0x7d, 0xcc, 0xff, 0x72, 0x21,
  0xb8, 0x08, 0x46, 0x74, 0xf7, 0x43, 0x24, 0x8e, 0xe0, 0x35, 0x90, 0xe6, 0x81, 0x3a, 0x26, 0x4c,
  0x3c, 0x28, 0x52, 0xbb, 0x91, 0xc3, 0x00, 0xcb, 0x88, 0xd0, 0x65, 0x8b, 0x1b, 0x53, 0x2e, 0xa3,
  0x71, 0x64, 0x48, 0x97, 0xa2, 0x0d, 0xf9, 0x4e, 0x38, 0x19, 0xef, 0x46, 0xa9, 0xde, 0xac, 0xd8,
  0xa8, 0xfa, 0x76, 0x3f, 0xe3, 0x9c, 0x34, 0x3f, 0xf9, 0xdc, 0xbb, 0xc7, 0xc7, 0x0b, 0x4f, 0x1d,
  0x8a, 0x51, 0xe0, 0x4b, 0xcd, 0xb4, 0x59, 0x31, 0xc8, 0x9f, 0x7e, 0xc9, 0xd9, 0x78, 0x73, 0x64,
  0xea, 0xc5, 0xac, 0x83, 0x34, 0xd3, 0xeb, 0xc3, 0xc5, 0x81, 0xa0, 0xff, 0xfa, 0x13, 0x63, 0xeb,
  0x17, 0x0d, 0xdd, 0x51, 0xb7, 0xf0, 0xda, 0x49, 0xd3, 0x16, 0x55, 0x26, 0x29, 0xd4, 0x68, 0x9e,
  0x2b, 0x16, 0xbe, 0x58, 0x7d, 0x47, 0xa1, 0xfc, 0x8f, 0xf8, 0xb8, 0xd1, 0x7a, 0xd0, 0x31, 0xce,
  0x45, 0xcb, 0x3a, 0x8f, 0x95, 0x16, 0x04, 0x28, 0xaf, 0xd7, 0xfb, 0xca, 0xbb, 0x4b, 0x40, 0x7e]⟩

/-- The word of the secret at a place. -/
def secretAt (i : Nat) : UInt64 := read64 secret i

/-- The last mixing of a long input. -/
def avalanche (h : UInt64) : UInt64 := shiftMix (shiftMix h 37 * 0x165667919E3779F9) 32

/-- The last mixing of a very short input. -/
def shortAvalanche (h : UInt64) : UInt64 :=
  shiftMix (shiftMix (shiftMix h 33 * primeTwo) 29 * primeThree) 32

/-! ### Inputs of at most 16 bytes -/

/-- The digest of no bytes. -/
def digestEmpty : Word128 :=
  ⟨shortAvalanche (secretAt 64 ^^^ secretAt 72), shortAvalanche (secretAt 80 ^^^ secretAt 88)⟩

/-- The digest of one to three bytes. -/
def digestTiny (input : ByteArray) : Word128 :=
  let len := input.size
  let first := (byteAt input 0).toUInt64
  let middle := (byteAt input (len / 2)).toUInt64
  let last := (byteAt input (len - 1)).toUInt64
  let low := (first <<< 16) ||| (middle <<< 24) ||| last ||| (len.toUInt64 <<< 8)
  let high := rotate13 (swap32 low)
  ⟨shortAvalanche (low ^^^ (read32 secret 0 ^^^ read32 secret 4)),
    shortAvalanche (high ^^^ (read32 secret 8 ^^^ read32 secret 12))⟩

/-- The digest of four to eight bytes. -/
def digestShort (input : ByteArray) : Word128 :=
  let len := input.size
  let word := read32 input 0 + (read32 input (len - 4) <<< 32)
  let product := multiply (word ^^^ (secretAt 16 ^^^ secretAt 24)) (primeOne + (len.toUInt64 <<< 2))
  let high := product.high + (product.low <<< 1)
  let low := product.low ^^^ (high >>> 3)
  ⟨shiftMix (shiftMix low 35 * 0x9FB21C651E98DF25) 28, avalanche high⟩

/-- The digest of nine to sixteen bytes. -/
def digestMedium (input : ByteArray) : Word128 :=
  let len := input.size
  let first := read64 input 0
  let last := read64 input (len - 8)
  let product := multiply (first ^^^ last ^^^ (secretAt 32 ^^^ secretAt 40)) primeOne
  let low := product.low + ((len.toUInt64 - 1) <<< 54)
  let keyed := last ^^^ (secretAt 48 ^^^ secretAt 56)
  let high := product.high + keyed + lowHalf keyed * (prime32Two - 1)
  let mixed := multiply (low ^^^ swap64 high) primeTwo
  ⟨avalanche mixed.low, avalanche (mixed.high + high * primeTwo)⟩

/-! ### Inputs of 17 to 240 bytes -/

/-- Sixteen bytes of input mixed with sixteen bytes of the secret. -/
def mix16 (input : ByteArray) (i key : Nat) : UInt64 :=
  foldProduct (read64 input i ^^^ secretAt key) (read64 input (i + 8) ^^^ secretAt (key + 8))

/-- Two parts of sixteen bytes mixed into a running pair. -/
def mix32 (input : ByteArray) (acc : Word128) (i j key : Nat) : Word128 :=
  ⟨(acc.low + mix16 input i key) ^^^ (read64 input j + read64 input (j + 8)),
    (acc.high + mix16 input j (key + 16)) ^^^ (read64 input i + read64 input (i + 8))⟩

/-- The last step of both middle forms. -/
def finishMiddle (len : Nat) (acc : Word128) : Word128 :=
  let low := acc.low + acc.high
  let high := acc.low * primeOne + acc.high * primeFour + len.toUInt64 * primeTwo
  ⟨avalanche low, 0 - avalanche high⟩

/-- The digest of 17 to 128 bytes: pairs of parts from both ends, the innermost pair first. -/
def digestMiddle (input : ByteArray) : Word128 :=
  let len := input.size
  let pairs := (len - 1) / 32
  let start : Word128 := ⟨len.toUInt64 * primeOne, 0⟩
  finishMiddle len <|
    (List.range (pairs + 1)).reverse.foldl
      (fun acc k => mix32 input acc (16 * k) (len - 16 * (k + 1)) (32 * k)) start

/-- The digest of 129 to 240 bytes: parts in order, the first four pairs mixed once more. -/
def digestMiddleLong (input : ByteArray) : Word128 :=
  let len := input.size
  let start : Word128 := ⟨len.toUInt64 * primeOne, 0⟩
  let head := (List.range 4).foldl
    (fun acc k => mix32 input acc (32 * k) (32 * k + 16) (32 * k)) start
  let head : Word128 := ⟨avalanche head.low, avalanche head.high⟩
  let body := (List.range (len / 32 - 4)).foldl
    (fun acc k => mix32 input acc (32 * k + 128) (32 * k + 144) (32 * k + 3)) head
  finishMiddle len (mix32 input body (len - 16) (len - 32) 103)

/-! ### Inputs of more than 240 bytes -/

/-- The eight lanes at the start. -/
def lanes : Array UInt64 :=
  #[prime32Three, primeOne, primeTwo, primeThree, primeFour, prime32Two, primeFive, prime32One]

/-- Sixty-four bytes of input taken into the lanes. -/
def takeStripe (input : ByteArray) (acc : Array UInt64) (i key : Nat) : Array UInt64 :=
  (List.range 8).foldl
    (fun acc lane =>
      let value := read64 input (i + 8 * lane)
      let keyed := value ^^^ secretAt (key + 8 * lane)
      let other := lane ^^^ 1
      let acc := acc.setIfInBounds other (acc.getD other 0 + value)
      acc.setIfInBounds lane (acc.getD lane 0 + lowHalf keyed * (keyed >>> 32)))
    acc

/-- The lanes after a block of 1024 bytes. -/
def scramble (acc : Array UInt64) : Array UInt64 :=
  (List.range 8).foldl
    (fun acc lane =>
      acc.setIfInBounds lane
        ((shiftMix (acc.getD lane 0) 47 ^^^ secretAt (128 + 8 * lane)) * prime32One))
    acc

/-- The lanes brought together into one word. -/
def mergeLanes (acc : Array UInt64) (key : Nat) (start : UInt64) : UInt64 :=
  avalanche <| (List.range 4).foldl
    (fun sum k =>
      sum + foldProduct (acc.getD (2 * k) 0 ^^^ secretAt (key + 16 * k))
        (acc.getD (2 * k + 1) 0 ^^^ secretAt (key + 16 * k + 8)))
    start

/-- The digest of more than 240 bytes. -/
def digestLong (input : ByteArray) : Word128 :=
  let len := input.size
  let blocks := (len - 1) / 1024
  let acc := (List.range blocks).foldl
    (fun acc block =>
      scramble <| (List.range 16).foldl
        (fun acc stripe => takeStripe input acc (1024 * block + 64 * stripe) (8 * stripe)) acc)
    lanes
  let rest := (len - 1 - 1024 * blocks) / 64
  let acc := (List.range rest).foldl
    (fun acc stripe => takeStripe input acc (1024 * blocks + 64 * stripe) (8 * stripe)) acc
  let acc := takeStripe input acc (len - 64) 121
  ⟨mergeLanes acc 11 (len.toUInt64 * primeOne),
    mergeLanes acc 117 (~~~(len.toUInt64 * primeTwo))⟩

/-- The XXH3 digest of a byte sequence. -/
def digest (bytes : Bytes) : Word128 :=
  let input : ByteArray := ⟨bytes.toArray⟩
  if input.size = 0 then digestEmpty
  else if input.size ≤ 3 then digestTiny input
  else if input.size ≤ 8 then digestShort input
  else if input.size ≤ 16 then digestMedium input
  else if input.size ≤ 128 then digestMiddle input
  else if input.size ≤ 240 then digestMiddleLong input
  else digestLong input

end Xxh3

end ModuleBuild
