import ModuleBuild.Text.Utf8

/-!
# Texts of bytes

Programs pass bytes to each other, most of which spell characters. Where the bytes themselves count,
they are kept as a text that has one character for each of them, the one with the number of the
byte. Such a text can be taken apart like any other, and no byte gets lost.

## Main definitions

* `Octets.ofBytes`, `Octets.toBytes` — bytes as such a text, and back
* `Octets.ofText`, `Octets.toText` — a text of characters by its bytes, and back
* `Octets.text?` — back only where the bytes spell a text
* `Octets.IsAscii` — each character is a byte of its own

## Main results

* `Octets.toBytes_ofBytes` — no byte gets lost
* `Octets.toText_ofText` — nor any character
* `Octets.text?_eq_some` — a text is told by its bytes
* `Octets.exists_of_toList_ofText` — and is taken apart at a character of one byte as these are
-/

namespace ModuleBuild

namespace Octets

/-- The character with the number of a byte. -/
def charOf (b : UInt8) : Char := Char.ofNat b.toNat

/-- The text with a character for each byte. -/
def ofBytes (bytes : Bytes) : String := String.ofList (bytes.map charOf)

/-- The bytes that the characters of a text stand for. -/
def toBytes (s : String) : Bytes := s.toList.map fun c => UInt8.ofNat c.toNat

/-- The text with a character for each byte of a text. -/
def ofText (s : String) : String := ofBytes (Utf8.encode s)

/-- The text whose bytes the characters stand for. -/
def toText (s : String) : String := Utf8.decodeLossy (toBytes s)

/-- The text whose bytes the characters stand for, if the bytes spell one. A character above 255
stands for no byte. -/
def text? (s : String) : Option String := (Utf8.decode? (toBytes s)).filter (ofText · == s)

theorem toNat_charOf (b : UInt8) : (charOf b).toNat = b.toNat := by
  have h : b.toNat < 256 := b.toNat_lt
  have hv : b.toNat.isValidChar := .inl (by omega)
  rw [charOf, Char.ofNat, dif_pos hv]
  rfl

theorem toBytes_ofBytes (bytes : Bytes) : toBytes (ofBytes bytes) = bytes := by
  have h : (fun c => UInt8.ofNat c.toNat) ∘ charOf = id := by
    funext b
    simp [toNat_charOf]
  simp [toBytes, ofBytes, h]

/-- A text is read back from its bytes. -/
theorem toText_ofText (s : String) : toText (ofText s) = s := by
  simp [toText, ofText, toBytes_ofBytes, Utf8.decodeLossy, Utf8.decode?_encode]

theorem ofText_inj {s t : String} (h : ofText s = ofText t) : s = t := by
  rw [← toText_ofText s, h, toText_ofText]

theorem text?_eq_some {s text : String} : text? s = some text ↔ s = ofText text := by
  constructor
  · intro h
    obtain ⟨-, heq⟩ := Option.filter_eq_some_iff.1 h
    exact (eq_of_beq heq).symm
  · rintro rfl
    simp [text?, ofText, toBytes_ofBytes, Utf8.decode?_encode]

/-! ### Characters of one byte

A character below 128 is its own byte, and is found in the bytes of a text only where it is in the
text. So a text is taken apart at such a character as its bytes are. -/

section

variable {c d : Char} {s t : String}

/-- The characters for the bytes of a character. -/
def ofChar (c : Char) : List Char := (String.utf8EncodeChar c).map charOf

theorem toList_ofText (s : String) : (ofText s).toList = s.toList.flatMap ofChar := by
  rw [ofText, ofBytes, String.toList_ofList, Utf8.encode_eq_flatMap, List.map_flatMap]
  rfl

theorem ofChar_of_ascii (h : c.toNat < 128) : ofChar c = [c] := by
  have hbyte : (UInt8.ofNat c.toNat).toNat = c.toNat :=
    UInt8.toNat_ofNat_of_lt' (Nat.lt_trans h (by decide))
  rw [ofChar, String.utf8EncodeChar_eq_singleton (Utf8.utf8Size_of_ascii h)]
  change [Char.ofNat (UInt8.ofNat c.toNat).toNat] = [c]
  rw [hbyte, Char.ofNat_toNat]

theorem le_of_mem_ofChar (h : 128 ≤ c.toNat) (hd : d ∈ ofChar c) : 128 ≤ d.toNat := by
  obtain ⟨b, hb, rfl⟩ := List.mem_map.1 hd
  rw [toNat_charOf]
  exact Utf8.le_of_mem_utf8EncodeChar h hb

theorem ofChar_ne_nil (c : Char) : ofChar c ≠ [] := by
  rw [ofChar, Ne, List.map_eq_nil_iff, ← List.length_eq_zero_iff, String.length_utf8EncodeChar]
  exact Nat.ne_of_gt c.utf8Size_pos

theorem ofText_append (s t : String) : ofText (s ++ t) = ofText s ++ ofText t := by
  rw [← String.toList_inj, String.toList_append, toList_ofText, toList_ofText, toList_ofText,
    String.toList_append, List.flatMap_append]

theorem ofText_intercalate (sep : String) (texts : List String) :
    ofText (String.intercalate sep texts) =
      String.intercalate (ofText sep) (texts.map ofText) := by
  rw [← String.toList_inj, toList_ofText, String.toList_intercalate, String.toList_intercalate]
  induction texts with
  | nil => rfl
  | cons text texts ih =>
    rcases texts with _ | ⟨text', texts⟩
    · simp [toList_ofText]
    · simp only [List.map_cons, List.intercalate_cons_cons, List.flatMap_append] at ih ⊢
      rw [ih, toList_ofText sep, toList_ofText text]

/-- All characters of a text are below 128, so each is a byte of its own. -/
def IsAscii (s : String) : Prop := ∀ c ∈ s.toList, c.toNat < 128

-- Only the characters of the text are gone through, and not all that there are.
instance (s : String) : Decidable (IsAscii s) := List.decidableBAll _ s.toList

/-- A text of such characters is its own bytes. -/
theorem ofText_of_ascii (h : IsAscii s) : ofText s = s := by
  rw [← String.toList_inj, toList_ofText]
  unfold IsAscii at h
  generalize s.toList = cs at h
  induction cs with
  | nil => rfl
  | cons c cs ih =>
    rw [List.flatMap_cons, ofChar_of_ascii (h c List.mem_cons_self),
      ih fun d hd => h d (List.mem_cons_of_mem _ hd), List.singleton_append]

theorem mem_toList_ofText (hc : c.toNat < 128) : c ∈ (ofText s).toList ↔ c ∈ s.toList := by
  rw [toList_ofText, List.mem_flatMap]
  constructor
  · rintro ⟨d, hd, hmem⟩
    by_cases hsmall : d.toNat < 128
    · rw [ofChar_of_ascii hsmall, List.mem_singleton] at hmem
      exact hmem ▸ hd
    · exact absurd (le_of_mem_ofChar (Nat.le_of_not_lt hsmall) hmem) (Nat.not_le_of_lt hc)
  · intro hmem
    exact ⟨c, hmem, by rw [ofChar_of_ascii hc, List.mem_singleton]⟩

/-- **A text is taken apart** at such a character as its bytes are. -/
theorem exists_of_toList_ofText (hc : c.toNat < 128) {before after : List Char}
    (h : (ofText s).toList = before ++ c :: after) :
    ∃ first rest, s.toList = first ++ c :: rest ∧ before = first.flatMap ofChar ∧
      after = rest.flatMap ofChar := by
  rw [toList_ofText] at h
  generalize s.toList = cs at h
  induction cs generalizing before with
  | nil => simp at h
  | cons d cs ih =>
    rw [List.flatMap_cons] at h
    by_cases hd : d.toNat < 128
    · rw [ofChar_of_ascii hd, List.singleton_append] at h
      cases before with
      | nil =>
        obtain ⟨rfl, rfl⟩ := List.cons.inj h
        exact ⟨[], cs, rfl, rfl, rfl⟩
      | cons e before =>
        obtain ⟨rfl, htail⟩ := List.cons.inj h
        obtain ⟨first, rest, rfl, rfl, rfl⟩ := ih htail
        exact ⟨d :: first, rest, rfl, by rw [List.flatMap_cons, ofChar_of_ascii hd]; rfl, rfl⟩
    · -- the character at which the text is taken apart comes after the bytes of this one
      obtain ⟨between, rfl, htail⟩ | ⟨between, hbytes, htail⟩ := List.append_eq_append_iff.1 h
      · obtain ⟨first, rest, rfl, rfl, rfl⟩ := ih htail
        exact ⟨d :: first, rest, rfl, List.flatMap_cons.symm, rfl⟩
      cases between with
      | nil =>
        have htail' : cs.flatMap ofChar = [] ++ c :: after := htail.symm
        obtain ⟨first, rest, rfl, hfirst, rfl⟩ := ih htail'
        refine ⟨d :: first, rest, rfl, ?_, rfl⟩
        rw [List.flatMap_cons, ← hfirst, hbytes]
        simp
      | cons e between =>
        obtain ⟨rfl, -⟩ := List.cons.inj htail
        have hmem : c ∈ ofChar d := by simp [hbytes]
        exact absurd (le_of_mem_ofChar (Nat.le_of_not_lt hd) hmem) (Nat.not_le_of_lt hc)

/-- A text begins with such a character if its bytes do. -/
theorem head?_of_ofText (hc : c.toNat < 128) (h : (ofText s).toList.head? = some c) :
    s.toList.head? = some c := by
  obtain ⟨after, hafter⟩ := List.head?_eq_some_iff.1 h
  have hsplit : (ofText s).toList = [] ++ c :: after := hafter
  obtain ⟨first, rest, hs, hfirst, -⟩ := exists_of_toList_ofText hc hsplit
  cases first with
  | nil => rw [hs, List.nil_append, List.head?_cons]
  | cons d first =>
    exact absurd (List.append_eq_nil_iff.1 hfirst.symm).1 (ofChar_ne_nil d)

end

end Octets

end ModuleBuild
