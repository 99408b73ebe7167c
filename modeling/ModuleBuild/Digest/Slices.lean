import ModuleBuild.Digest.Basic
import ModuleBuild.Text.Slice

/-!
# Reading content hashes between byte offsets

A content hash can be read from the bytes of its text: first their number is checked and that each
is a digit, and then the text is cut behind every second byte, and each part is read as a number. To
cut a text inside of a character is a fault of the program, which is aborted by it, and not an error
that it can report. The check in front is there to keep it from that.

## Main definitions

* `Hex.byte?` — a byte as a number in base sixteen
* `ContentHash.readSlices?` — the bytes that a text spells, if it is not cut inside of a character
-/

namespace ModuleBuild

namespace Hex

/-- Whether a byte is a digit on its own. -/
def isDigitByte (b : UInt8) : Bool :=
  (48 ≤ b && b ≤ 57) || (97 ≤ b && b ≤ 102) || (65 ≤ b && b ≤ 70)

/-- The digits behind a plus sign, if there is one. -/
def dropPlus (cs : List Char) : List Char := if cs.head? = some '+' then cs.tail else cs

/-- A text as a number below 256 in base sixteen. There may be a plus sign in front. -/
def byte? (cs : List Char) : Option UInt8 :=
  if (dropPlus cs).isEmpty then none
  else (number? (dropPlus cs)).bind fun n => if n < 256 then some (UInt8.ofNat n) else none

end Hex

namespace ContentHash

/-- The bytes that a text spells at some places, each place being two bytes wide. There is no answer
if the text is cut inside of a character. -/
def readPlaces? (s : String) : List Nat → Option (Except MalformedHash Bytes)
  | [] => some (.ok [])
  | i :: rest =>
    (Text.slice? s (2 * i) (2 * i + 2)).bind fun digits =>
      match Hex.byte? digits.toList with
      | none => some (.error ⟨s⟩)
      | some b => (readPlaces? s rest).map fun result => result.map (b :: ·)

/-- The bytes that a text spells at sixteen places, if it is 32 bytes long and each is a digit. -/
def readSlices? (s : String) : Option (Except MalformedHash Bytes) :=
  let bytes := Utf8.encode s
  if bytes.length ≠ 32 ∨ bytes.all Hex.isDigitByte = false then some (.error ⟨s⟩)
  else readPlaces? s (List.range 16)

end ContentHash

end ModuleBuild
