/-!
# Texts as bytes

Files and tools deal in bytes, messages and paths in characters. This module converts between the
two by UTF-8: `encode` always succeeds, `decode?` refuses bytes that are not UTF-8, and
`decodeLossy` puts a replacement character for each part that cannot belong to a character.

## Main definitions

* `Bytes` — a sequence of bytes
* `Utf8.encode`, `Utf8.decode?` — a text as bytes, and back
* `Utf8.decodeLossy` — back from any bytes at all

## Main results

* `Utf8.decode?_encode` — a text is read back from its bytes
* `Utf8.eq_encode_of_decode?` — only the bytes of a text are read as that text
* `Utf8.le_of_mem_utf8EncodeChar`, `Utf8.toList_of_encode` — bytes below 128 are characters of
  their own
* `Utf8.exists_byte_of_mem_decodeLossy` — in any bytes
-/

namespace ModuleBuild

/-- A sequence of bytes: what a file holds, or what a tool has written. -/
abbrev Bytes := List UInt8

namespace Utf8

/-- The bytes of a text. -/
def encode (s : String) : Bytes := s.toUTF8.data.toList

/-- The text with the given bytes, if there is one. -/
def decode? (bytes : Bytes) : Option String := String.fromUTF8? ⟨bytes.toArray⟩

theorem decode?_encode (s : String) : decode? (encode s) = some s := by
  simp [decode?, encode, String.fromUTF8?, String.fromUTF8, s.isValidUTF8]

theorem eq_encode_of_decode? {bytes : Bytes} {s : String} (h : decode? bytes = some s) :
    bytes = encode s := by
  simp only [decode?, String.fromUTF8?] at h
  split at h
  · obtain rfl := Option.some.inj h
    simp [encode, String.fromUTF8]
  · simp at h

/-- A text is told by its bytes. -/
theorem encode_inj {s t : String} (h : encode s = encode t) : s = t := by
  have hdecode := congrArg decode? h
  rw [decode?_encode, decode?_encode] at hdecode
  exact Option.some.inj hdecode

/-- A text is written character by character. -/
theorem encode_eq_flatMap (s : String) : encode s = s.toList.flatMap String.utf8EncodeChar := by
  rw [encode, String.toUTF8_eq_toByteArray, ← String.utf8Encode_toList]
  simp [List.utf8Encode]

/-! ### Characters of one byte -/

theorem utf8Size_of_ascii {c : Char} (h : c.toNat < 128) : c.utf8Size = 1 := by
  have htoNat : c.val.toNat = c.toNat := rfl
  have hlast : (127 : UInt32).toNat = 127 := rfl
  rw [Char.utf8Size_eq_one_iff, UInt32.le_iff_toNat_le]
  omega

/-- A character of one byte is written as its number. -/
theorem encode_of_ascii {s : String} (h : ∀ c ∈ s.toList, c.toNat < 128) :
    encode s = s.toList.map fun c => UInt8.ofNat c.toNat := by
  have hchars : ∀ cs : List Char, (∀ c ∈ cs, c.toNat < 128) →
      cs.flatMap String.utf8EncodeChar = cs.map fun c => UInt8.ofNat c.toNat := by
    intro cs hcs
    induction cs with
    | nil => rfl
    | cons c cs ih =>
      have hc := utf8Size_of_ascii (hcs c List.mem_cons_self)
      rw [List.flatMap_cons, String.utf8EncodeChar_eq_singleton hc,
        ih fun d hd => hcs d (List.mem_cons_of_mem _ hd)]
      rfl
  rw [encode_eq_flatMap, hchars _ h]

/-- No byte of a longer character is below 128. -/
theorem le_of_mem_utf8EncodeChar {c : Char} (h : 128 ≤ c.toNat) {b : UInt8}
    (hb : b ∈ String.utf8EncodeChar c) : 128 ≤ b.toNat := by
  have htoNat : c.val.toNat = c.toNat := rfl
  simp only [String.utf8EncodeChar] at hb
  split at hb
  · omega
  split at hb
  · simp only [List.mem_cons, List.not_mem_nil, or_false] at hb
    rcases hb with rfl | rfl <;> simp <;> omega
  split at hb
  · simp only [List.mem_cons, List.not_mem_nil, or_false] at hb
    rcases hb with rfl | rfl | rfl <;> simp <;> omega
  · simp only [List.mem_cons, List.not_mem_nil, or_false] at hb
    rcases hb with rfl | rfl | rfl | rfl <;> simp <;> omega

/-- **Bytes below 128 are the numbers of the characters.** No byte of a longer character is below
128, but there is no need to look at one: the characters with these numbers make up a text with
these bytes, and there is no other one. -/
theorem toList_of_encode {s : String} (h : ∀ b ∈ encode s, b.toNat < 128) :
    s.toList = (encode s).map fun b => Char.ofNat b.toNat := by
  let cs := (encode s).map fun b => Char.ofNat b.toNat
  have htoNat : ∀ n < 128, (Char.ofNat n).toNat = n := by decide
  have hsmall : ∀ c ∈ (String.ofList cs).toList, c.toNat < 128 := by
    intro c hc
    obtain ⟨b, hb, rfl⟩ := List.mem_map.1 (String.toList_ofList ▸ hc)
    rw [htoNat _ (h b hb)]
    exact h b hb
  have hbytes : encode (String.ofList cs) = encode s := by
    rw [encode_of_ascii hsmall, String.toList_ofList, List.map_map]
    refine (List.map_congr_left fun b hb => ?_).trans (List.map_id _)
    simp [htoNat _ (h b hb)]
  rw [← encode_inj hbytes, String.toList_ofList, hbytes]

/-! ### Reading any bytes

The reader takes one byte at a time. After the first byte of a longer character it is *owed* some
further bytes; the first of these has a range of its own, which keeps out the spellings that are
too long, the surrogates and what lies above the last character. -/

/-- The character that stands for bytes that spell none. -/
def replacement : Char := '\uFFFD'

/-- What the reader still expects inside a character. -/
structure Owed where
  /-- The bits read so far. -/
  bits : Nat
  /-- How many bytes are missing after the next one. -/
  more : Nat
  /-- The least next byte that is allowed. -/
  low : Nat
  /-- The greatest next byte that is allowed. -/
  high : Nat

/-- What one byte at the start of a character means. -/
inductive Lead where
  /-- The byte is a character of its own. -/
  | whole (c : Char)
  /-- The byte begins a longer character. -/
  | opens (owed : Owed)
  /-- No character begins with the byte. -/
  | stray

/-- The meaning of a byte where a character may start. -/
def lead (b : UInt8) : Lead :=
  let n := b.toNat
  if n < 0x80 then .whole (Char.ofNat n)
  else if n < 0xC2 then .stray
  else if n < 0xE0 then .opens ⟨n - 0xC0, 0, 0x80, 0xBF⟩
  else if n < 0xF0 then
    .opens ⟨n - 0xE0, 1, if n = 0xE0 then 0xA0 else 0x80, if n = 0xED then 0x9F else 0xBF⟩
  else if n < 0xF5 then
    .opens ⟨n - 0xF0, 2, if n = 0xF0 then 0x90 else 0x80, if n = 0xF4 then 0x8F else 0xBF⟩
  else .stray

/-- The characters of a byte sequence. A part that begins like a character and breaks off, and a
byte that can begin none, each become one `replacement`. -/
def decodeLossyChars : Option Owed → Bytes → List Char
  | none, [] => []
  | some _, [] => [replacement]
  | none, b :: rest =>
    match lead b with
    | .whole c => c :: decodeLossyChars none rest
    | .opens owed => decodeLossyChars (some owed) rest
    | .stray => replacement :: decodeLossyChars none rest
  | some owed, b :: rest =>
    if owed.low ≤ b.toNat ∧ b.toNat ≤ owed.high then
      let bits := owed.bits * 64 + (b.toNat - 0x80)
      match owed.more with
      | 0 => Char.ofNat bits :: decodeLossyChars none rest
      | more + 1 => decodeLossyChars (some ⟨bits, more, 0x80, 0xBF⟩) rest
    else
      replacement ::
        match lead b with
        | .whole c => c :: decodeLossyChars none rest
        | .opens owed => decodeLossyChars (some owed) rest
        | .stray => replacement :: decodeLossyChars none rest

/-- The text of any byte sequence, with `replacement` for what is not UTF-8. -/
def decodeLossy (bytes : Bytes) : String :=
  match decode? bytes with
  | some s => s
  | none => String.ofList (decodeLossyChars none bytes)

/-! ### Characters below 128 in any bytes -/

/-- What has been read of a longer character, and the least next byte, are too great for it to be
one below 128: the bits are 128 at least if no byte is missing then, and else 2, to which each byte
that follows adds six more. -/
def Owed.Long (owed : Owed) : Prop :=
  2 ≤ owed.bits * 64 + (owed.low - 0x80) ∧
    (owed.more = 0 → 128 ≤ owed.bits * 64 + (owed.low - 0x80))

theorem Owed.long_of_lead {b : UInt8} {owed : Owed} (h : lead b = .opens owed) : owed.Long := by
  unfold lead at h
  dsimp only at h
  repeat' split at h
  all_goals simp only [reduceCtorEq, Lead.opens.injEq] at h
  all_goals subst h
  all_goals simp only [Long]; omega

/-- The bits with one more byte. -/
theorem Owed.Long.next {owed : Owed} (h : owed.Long) {n : Nat} (hlow : owed.low ≤ n) :
    2 ≤ owed.bits * 64 + (n - 0x80) ∧ (owed.more = 0 → 128 ≤ owed.bits * 64 + (n - 0x80)) := by
  have hle : owed.bits * 64 + (owed.low - 0x80) ≤ owed.bits * 64 + (n - 0x80) := by omega
  exact ⟨Nat.le_trans h.1 hle, fun hlast => Nat.le_trans (h.2 hlast) hle⟩

theorem ne_ofNat_of_le {n : Nat} {c : Char} (hn : 128 ≤ n) (hpos : 0 < c.toNat)
    (hc : c.toNat < 128) : c ≠ Char.ofNat n := by
  rintro rfl
  by_cases hv : n.isValidChar
  · rw [Char.ofNat, dif_pos hv] at hc
    have htoNat : (Char.ofNatAux n hv).toNat = n := rfl
    omega
  · rw [Char.ofNat, dif_neg hv] at hpos
    exact absurd hpos (by decide)

theorem toNat_of_lead {b : UInt8} {c : Char} (h : lead b = .whole c) : b.toNat = c.toNat := by
  unfold lead at h
  dsimp only at h
  repeat' split at h
  all_goals simp only [reduceCtorEq, Lead.whole.injEq] at h
  rename_i hsmall
  have hv : b.toNat.isValidChar := .inl (by omega)
  rw [← h, Char.ofNat, dif_pos hv]
  rfl

theorem ne_replacement {c : Char} (hc : c.toNat < 128) : c ≠ replacement := by
  rintro rfl
  exact absurd hc (by decide)

/-- What a byte at the start of a character brings in, after which bytes are read as they should. -/
theorem exists_byte_of_mem_start {c : Char} (hc : c.toNat < 128) {b : UInt8} {rest : Bytes}
    (hrest : ∀ {owed : Option Owed}, (∀ o ∈ owed, o.Long) → c ∈ decodeLossyChars owed rest →
      ∃ b' ∈ b :: rest, b'.toNat = c.toNat)
    (h : c ∈ decodeLossyChars none (b :: rest)) : ∃ b' ∈ b :: rest, b'.toNat = c.toNat := by
  rw [decodeLossyChars] at h
  split at h
  · rename_i d hd
    rcases List.mem_cons.1 h with rfl | h
    · exact ⟨b, List.mem_cons_self, toNat_of_lead hd⟩
    · exact hrest (by simp) h
  · rename_i owed howed
    exact hrest (by simpa using Owed.long_of_lead howed) h
  · exact hrest (by simp) ((List.mem_cons.1 h).resolve_left (ne_replacement hc))

/-- What is read inside a longer character is no character below 128. -/
theorem mem_decodeLossyChars {c : Char} (hpos : 0 < c.toNat) (hc : c.toNat < 128) {bytes : Bytes} :
    ∀ {owed : Option Owed}, (∀ o ∈ owed, o.Long) → c ∈ decodeLossyChars owed bytes →
      ∃ b ∈ bytes, b.toNat = c.toNat := by
  induction bytes with
  | nil =>
    rintro (_ | owed) - h
    · simp [decodeLossyChars] at h
    · simp [decodeLossyChars, ne_replacement hc] at h
  | cons b rest ih =>
    have hrest : ∀ {owed : Option Owed}, (∀ o ∈ owed, o.Long) →
        c ∈ decodeLossyChars owed rest → ∃ b' ∈ b :: rest, b'.toNat = c.toNat := by
      intro owed howed h
      obtain ⟨b', hb', heq⟩ := ih howed h
      exact ⟨b', List.mem_cons_of_mem _ hb', heq⟩
    rintro (_ | owed) howed h
    · exact exists_byte_of_mem_start hc hrest h
    rw [decodeLossyChars] at h
    split at h
    · rename_i hrange
      have hlong := (howed owed rfl).next hrange.1
      dsimp only at h
      split at h
      · rename_i hmore
        exact hrest (by simp)
          ((List.mem_cons.1 h).resolve_left (ne_ofNat_of_le (hlong.2 hmore) hpos hc))
      · rename_i more _
        have howed' : Owed.Long ⟨owed.bits * 64 + (b.toNat - 0x80), more, 0x80, 0xBF⟩ := by
          simp only [Owed.Long]
          omega
        exact hrest (by simpa using howed') h
    -- the byte does not go on with the character, so it begins another one
    · exact exists_byte_of_mem_start hc hrest
        ((List.mem_cons.1 h).resolve_left (ne_replacement hc))

/-- **A character below 128 is read only where its byte is.** -/
theorem exists_byte_of_mem_decodeLossy {c : Char} {bytes : Bytes} (hpos : 0 < c.toNat)
    (hc : c.toNat < 128) (h : c ∈ (decodeLossy bytes).toList) : ∃ b ∈ bytes, b.toNat = c.toNat := by
  unfold decodeLossy at h
  split at h
  · rename_i s hs
    rw [eq_encode_of_decode? hs, encode_eq_flatMap]
    refine ⟨UInt8.ofNat c.toNat, List.mem_flatMap.2 ⟨c, h, ?_⟩, ?_⟩
    · rw [String.utf8EncodeChar_eq_singleton (utf8Size_of_ascii hc)]
      exact List.mem_singleton.2 rfl
    · exact UInt8.toNat_ofNat_of_lt' (Nat.lt_trans hc (by decide))
  · rw [String.toList_ofList] at h
    exact mem_decodeLossyChars hpos hc (by simp) h

end Utf8

end ModuleBuild
