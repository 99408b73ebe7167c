import ModuleBuild.Digest.Hex
import ModuleBuild.Digest.Xxh3

/-!
# Content hashes

A content hash is the digest of a list of byte sections. The sections are written into one stream,
each behind its length, so that no bytes can move from one section to the next without changing
the stream; a domain text goes first and keeps hashes of different purposes apart.

## Main definitions

* `ContentHash` — sixteen bytes
* `ContentHash.stream` — the sections of a domain as one byte stream
* `ContentHash.ofSections` — the hash of the sections of a domain
* `ContentHash.toHex`, `ContentHash.ofHex?` — a hash as 32 digits, and back
* `MalformedHash` — a text that spells no hash

## Main results

* `ContentHash.frame_append_inj` — a section is told from what follows it
* `ContentHash.ofHex?_toHex` — a hash is read back from its digits
-/

namespace ModuleBuild

/-- Sixteen bytes that stand for some content. -/
@[ext]
structure ContentHash where
  /-- The bytes, in the order in which they are written. -/
  bytes : Bytes
  /-- There are sixteen of them. -/
  length_bytes : bytes.length = 16
  deriving DecidableEq

/-- A text that was to be read as a content hash and spells none. -/
structure MalformedHash where
  /-- The text. -/
  input : String
  deriving DecidableEq

namespace MalformedHash

/-- What is said about a text that spells no hash. -/
def message (e : MalformedHash) : String := s!"invalid content hash: '{e.input}'"

end MalformedHash

namespace ContentHash

/-- A number as the given count of bytes, the lowest first. -/
def littleEndian : Nat → Nat → Bytes
  | 0, _ => []
  | count + 1, n => UInt8.ofNat n :: littleEndian count (n / 256)

@[simp] theorem length_littleEndian (count n : Nat) : (littleEndian count n).length = count := by
  induction count generalizing n with
  | zero => rfl
  | succ count ih => simp [littleEndian, ih]

theorem littleEndian_inj {count m n : Nat} (hm : m < Nat.pow 256 count) (hn : n < Nat.pow 256 count)
    (h : littleEndian count m = littleEndian count n) : m = n := by
  induction count generalizing m n with
  | zero =>
    change _ < 1 at hm hn
    omega
  | succ count ih =>
    change _ < Nat.pow 256 count * 256 at hm hn
    simp only [littleEndian, List.cons.injEq] at h
    have hlow : m % 256 = n % 256 := by
      have := congrArg UInt8.toNat h.1
      simpa using this
    have hhigh : m / 256 = n / 256 := ih (by omega) (by omega) h.2
    omega

/-- A section behind its length in eight bytes. -/
def frame (part : Bytes) : Bytes := littleEndian 8 part.length ++ part

/-- **A section is told from what follows it,** since its length is. -/
theorem frame_append_inj {a b r s : Bytes} (ha : a.length < UInt64.size)
    (hb : b.length < UInt64.size) (h : frame a ++ r = frame b ++ s) : a = b ∧ r = s := by
  simp only [frame, List.append_assoc] at h
  obtain ⟨hlen, hrest⟩ := List.append_inj h (by simp)
  have height : Nat.pow 256 8 = UInt64.size := by decide
  exact List.append_inj hrest (littleEndian_inj (height ▸ ha) (height ▸ hb) hlen)

/-- The stream that a domain and its sections are hashed as. -/
def stream (domain : String) (sections : List Bytes) : Bytes :=
  (Utf8.encode domain :: sections).flatMap frame

/-- The two words of a digest, the low one first. -/
def ofWords (w : Xxh3.Word128) : ContentHash where
  bytes := littleEndian 8 w.low.toNat ++ littleEndian 8 w.high.toNat
  length_bytes := by simp

/-- The hash of a byte stream. -/
def ofStream (bytes : Bytes) : ContentHash := ofWords (Xxh3.digest bytes)

/-- The hash of a list of sections under a domain. -/
def ofSections (domain : String) (sections : List Bytes) : ContentHash :=
  ofStream (stream domain sections)

/-- The 32 digits of a hash. -/
def toHex (h : ContentHash) : String := String.ofList (Hex.encode h.bytes)

/-- The hash that a text of exactly 32 digits spells, letters being of either case. -/
def ofHex? (s : String) : Option ContentHash :=
  match Hex.decode? s.toList with
  | none => none
  | some bytes => if h : bytes.length = 16 then some ⟨bytes, h⟩ else none

/-- Reads a hash, and names the text if it spells none. -/
def ofHex (s : String) : Except MalformedHash ContentHash :=
  match ofHex? s with
  | some h => .ok h
  | none => .error ⟨s⟩

/-- The start of a hash, as it is shown in passing. -/
def summary (h : ContentHash) : String :=
  s!"ContentHash({String.ofList ((Hex.encode h.bytes).take 8)}..)"

/-- A text spells the hash whose bytes its digits spell. -/
theorem ofHex?_eq_some_iff {s : String} {h : ContentHash} :
    ofHex? s = some h ↔ Hex.decode? s.toList = some h.bytes := by
  unfold ofHex?
  rcases Hex.decode? s.toList with _ | bytes
  · simp
  · by_cases hlength : bytes.length = 16
    · simp [hlength, ContentHash.ext_iff]
    · simp only [hlength, dite_false, reduceCtorEq, Option.some.injEq, false_iff]
      rintro rfl
      exact hlength h.length_bytes

theorem ofHex?_toHex (h : ContentHash) : ofHex? h.toHex = some h := by
  rw [ofHex?_eq_some_iff, toHex, String.toList_ofList, Hex.decode?_encode]

end ContentHash

end ModuleBuild
