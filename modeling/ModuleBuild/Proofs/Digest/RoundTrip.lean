import ModuleBuild.Digest.Slices
import ModuleBuild.Proofs.Cache.Snapshot

/-!
# Hashes as texts

A content hash is written as 32 digits in small letters, and is read from 32 digits of either case
and from nothing else. What is read is written in the same digits, and what is written is read back,
also by way of the file that keeps a fingerprint.

## Cutting the text

The text is read in parts of two bytes. That no part ends inside of a character is due to the check
in front of the reading: it admits bytes of digits only, and a text with such bytes has such
characters. So the reading between byte offsets comes to the same as the one by characters, and is
never aborted.

## Files that keep nothing

A fingerprint that was put into its file is read back from it, unless the path of the file leads to
a device. `Sidecar.not_always_loaded` shows such a path, a link to `/dev/null`.

## Main definitions

* `ContentHash.IsDigits` — a text is 32 digits
* `ContentHash.ReadsText` — what the reading of a text comes to
* `Sidecar.LoadsText` — what the reading of a fingerprint from its file comes to

## Main results

* `ContentHash.readSlices?_eq` — reading between byte offsets is reading by characters
* `ContentHash.text_round_trip` — hashes are written and read back
-/

namespace ModuleBuild

/-! ### Digits and their bytes -/

namespace Hex

/-- The byte of a digit is a digit. -/
theorem isDigitByte_of_isDigit {c : Char} (h : isDigit c = true) :
    c.toNat < 128 ∧ isDigitByte (UInt8.ofNat c.toNat) = true := by
  have hall : ∀ n < 128, isDigit (Char.ofNat n) = true → isDigitByte (UInt8.ofNat n) = true := by
    decide +kernel
  have hlt : c.toNat < 128 := by
    rcases isDigit_iff.1 h with hc | hc | hc <;> omega
  refine ⟨hlt, hall _ hlt ?_⟩
  rwa [Char.ofNat_toNat]

/-- A byte that is a digit is the byte of one. -/
theorem isDigit_of_isDigitByte {b : UInt8} (h : isDigitByte b = true) :
    b.toNat < 128 ∧ isDigit (Char.ofNat b.toNat) = true := by
  have hall : ∀ n < 256, isDigitByte (UInt8.ofNat n) = true →
      n < 128 ∧ isDigit (Char.ofNat n) = true := by
    decide +kernel
  refine hall _ b.toNat_lt ?_
  rwa [UInt8.ofNat_toNat]

/-- Two digits are a byte. A plus sign is no digit, so there is none in front. -/
theorem byte?_digits {c d : Char} {high low : Nat} (hc : value? c = some high)
    (hd : value? d = some low) : byte? [c, d] = some (UInt8.ofNat (16 * high + low)) := by
  have hplus : c ≠ '+' := by
    rintro rfl
    simp [show value? '+' = none by decide] at hc
  have hdrop : dropPlus [c, d] = [c, d] := if_neg (by simpa using hplus)
  have hnumber : number? [c, d] = some (16 * high + low) := by
    simp [number?, hc, hd]
  have hlt : 16 * high + low < 256 := by
    have hhigh := (digit_of_value? hc).1
    have hlow := (digit_of_value? hd).1
    omega
  rw [byte?, hdrop, hnumber, Option.bind_some, if_pos hlt]
  rfl

end Hex

namespace ContentHash

variable {s : String} {hash : ContentHash}

/-! ### Which texts are read -/

/-- A text is 32 hexadecimal digits, of either case. -/
def IsDigits (s : String) : Prop := s.length = 32 ∧ ∀ c ∈ s.toList, Hex.isDigit c = true

theorem ofHex_eq_ok_iff : ofHex s = .ok hash ↔ Hex.decode? s.toList = some hash.bytes := by
  rw [← ofHex?_eq_some_iff, ofHex]
  rcases ofHex? s with _ | hash' <;> simp

/-- **A text is read if it is 32 digits,** and only then. -/
theorem exists_ofHex_iff : (∃ hash, ofHex s = .ok hash) ↔ IsDigits s := by
  simp only [ofHex_eq_ok_iff]
  constructor
  · rintro ⟨hash, h⟩
    have hlength := Hex.length_of_decode? h
    rw [hash.length_bytes, String.length_toList] at hlength
    exact ⟨hlength, (Hex.exists_decode?_iff.1 ⟨_, h⟩).2⟩
  · rintro ⟨hlength, hdigits⟩
    rw [← String.length_toList] at hlength
    obtain ⟨bytes, hbytes⟩ := Hex.exists_decode?_iff.2 ⟨by omega, hdigits⟩
    have hcount := Hex.length_of_decode? hbytes
    exact ⟨⟨bytes, by omega⟩, hbytes⟩

/-- A text that is not read is named. -/
theorem ofHex_of_not_isDigits (h : ¬ IsDigits s) : ofHex s = .error ⟨s⟩ := by
  rcases hread : ofHex? s with _ | hash
  · rw [ofHex, hread]
  · exact absurd (exists_ofHex_iff.1 ⟨hash, by rw [ofHex, hread]⟩) h

/-- What is read is written in the same digits, in small letters. -/
theorem toHex_of_ofHex (h : ofHex s = .ok hash) : hash.toHex = s.toLower := by
  have hlower : s.toLower = s.map Char.toLower := rfl
  rw [toHex, Hex.encode_of_decode? (ofHex_eq_ok_iff.1 h), ← String.toList_inj,
    String.toList_ofList, hlower, String.toList_map]

theorem ofHex_toHex (hash : ContentHash) : ofHex hash.toHex = .ok hash := by
  rw [ofHex, ofHex?_toHex]

/-! ### Reading between byte offsets -/

/-- From the place on where digits begin, the parts of a text spell the bytes of the digits. -/
theorem readPlaces?_digits (h : ∀ c ∈ s.toList, Hex.isDigit c = true) {count start : Nat}
    {bytes : Bytes} (hlength : s.toList.length = 2 * (start + count))
    (hbytes : Hex.decode? (s.toList.drop (2 * start)) = some bytes) :
    readPlaces? s (List.range' start count) = some (.ok bytes) := by
  have hsize : ∀ c ∈ s.toList, c.utf8Size = 1 :=
    fun c hc => Utf8.utf8Size_of_ascii (Hex.isDigitByte_of_isDigit (h c hc)).1
  induction count generalizing start bytes with
  | zero =>
    rw [List.drop_of_length_le (show _ ≤ 2 * start from Nat.le_of_eq hlength)] at hbytes
    obtain rfl := Option.some.inj hbytes
    rfl
  | succ count ih =>
    obtain ⟨c, d, rest, hcd⟩ : ∃ c d rest, s.toList.drop (2 * start) = c :: d :: rest := by
      have hdrop : (s.toList.drop (2 * start)).length = 2 * count + 2 := by
        rw [List.length_drop]
        omega
      rcases hd : s.toList.drop (2 * start) with _ | ⟨c, _ | ⟨d, rest⟩⟩
      · simp [hd] at hdrop
      · simp [hd] at hdrop
      · exact ⟨c, d, rest, rfl⟩
    have hnext : s.toList.drop (2 * (start + 1)) = rest := by
      rw [Nat.mul_add, ← List.drop_drop, hcd]
      rfl
    rw [hcd] at hbytes
    obtain ⟨high, low, others, hhigh, hlow, hrest, rfl⟩ :=
      Hex.decode?_cons_cons_eq_some.1 hbytes
    have hslice : Text.slice? s (2 * start) (2 * start + 2) = some (String.ofList [c, d]) := by
      rw [Text.slice?_of_ascii hsize (Nat.le_add_right _ _) (by omega), hcd,
        Nat.add_sub_cancel_left]
      rfl
    rw [List.range'_succ, readPlaces?, hslice, Option.bind_some, String.toList_ofList,
      Hex.byte?_digits hhigh hlow]
    dsimp only
    rw [ih (by omega) (hnext ▸ hrest)]
    rfl

/-- A text whose bytes are 32 digits is 32 digits. -/
theorem isDigits_of_encode (hlength : (Utf8.encode s).length = 32)
    (hbytes : (Utf8.encode s).all Hex.isDigitByte = true) : IsDigits s := by
  rw [List.all_eq_true] at hbytes
  have hchars := Utf8.toList_of_encode fun b hb => (Hex.isDigit_of_isDigitByte (hbytes b hb)).1
  refine ⟨?_, fun c hc => ?_⟩
  · rw [← String.length_toList, hchars, List.length_map, hlength]
  · rw [hchars] at hc
    obtain ⟨b, hb, rfl⟩ := List.mem_map.1 hc
    exact (Hex.isDigit_of_isDigitByte (hbytes b hb)).2

/-- A text that is 32 digits has 32 bytes, which are digits. -/
theorem IsDigits.encode (h : IsDigits s) :
    (Utf8.encode s).length = 32 ∧ (Utf8.encode s).all Hex.isDigitByte = true := by
  have hbytes := Utf8.encode_of_ascii fun c hc => (Hex.isDigitByte_of_isDigit (h.2 c hc)).1
  rw [hbytes, List.length_map, String.length_toList, List.all_map, List.all_eq_true]
  exact ⟨h.1, fun c hc => (Hex.isDigitByte_of_isDigit (h.2 c hc)).2⟩

/-- **Reading between byte offsets** is reading by characters, and is never aborted. -/
theorem readSlices?_eq (s : String) : readSlices? s = some ((ofHex s).map bytes) := by
  unfold readSlices?
  dsimp only
  by_cases h : IsDigits s
  · obtain ⟨hash, hhash⟩ := exists_ofHex_iff.2 h
    rw [if_neg (by simp [h.encode]), hhash, List.range_eq_range']
    refine readPlaces?_digits h.2 ?_ (ofHex_eq_ok_iff.1 hhash)
    rw [String.length_toList, h.1]
  · have hrefused : (Utf8.encode s).length ≠ 32 ∨
        (Utf8.encode s).all Hex.isDigitByte = false := by
      by_cases hlength : (Utf8.encode s).length = 32
      · exact .inr (Bool.eq_false_iff.2 fun hbytes => h (isDigits_of_encode hlength hbytes))
      · exact .inl hlength
    rw [if_pos hrefused, ofHex_of_not_isDigits h]
    rfl

/-- What the reading of a text as a hash comes to. -/
structure ReadsText (s : String) : Prop where
  /-- It is read if it is 32 digits, and only then. -/
  accepted_iff : (∃ hash, ofHex s = .ok hash) ↔ IsDigits s
  /-- Any other text is refused, and named. -/
  refused : ¬ IsDigits s → ofHex s = .error ⟨s⟩
  /-- What is read is written in the same digits, in small letters. -/
  written : ∀ hash, ofHex s = .ok hash → hash.toHex = s.toLower
  /-- Between byte offsets the same is read, and the text is never cut inside of a character. -/
  uncut : readSlices? s = some ((ofHex s).map bytes)

theorem readsText (s : String) : ReadsText s where
  accepted_iff := exists_ofHex_iff
  refused := ofHex_of_not_isDigits
  written := fun _ => toHex_of_ofHex
  uncut := readSlices?_eq s

end ContentHash

/-! ### The file of a fingerprint -/

namespace Sidecar

open ContentHash

variable {s : Sidecar} {files files' : FileTree} {cwd : Location} {hash : ContentHash}

/-- **A fingerprint is read back from its file.** -/
theorem load_of_save (h : s.save files cwd hash = .ok files')
    (hd : files.isDevice cwd s.path = false) : s.load files' cwd = .ok hash := by
  have htext := FileTree.readText_of_write (save_eq_ok.1 h) hd
  rw [load_of_read htext, Text.trim_append_newline hash.isBlank_of_mem_toHex, ofHex?_toHex]

/-- What the reading of a fingerprint from its file comes to. -/
structure LoadsText (s : Sidecar) (files : FileTree) (cwd : Location) : Prop where
  /-- It is read if the file holds a text that without the blanks around it is the 32 digits of the
  fingerprint, of either case. -/
  ok_iff : ∀ hash, s.load files cwd = .ok hash ↔
    ∃ text, files.read cwd s.path = .ok (Utf8.encode text) ∧ IsDigits (Text.trim text) ∧
      hash.toHex = (Text.trim text).toLower
  /-- It is a fault of the file that it cannot be read, or holds no text. -/
  fault_iff : ∀ fault, s.load files cwd = .error (.file s.path fault) ↔
    files.read cwd s.path = .error fault ∨
      fault = .notText ∧ ∃ content, files.read cwd s.path = .ok content ∧
        ∀ text, content ≠ Utf8.encode text
  /-- It is malformed if the file holds any other text. -/
  malformed_iff : s.load files cwd = .error (.malformed s.path) ↔
    ∃ text, files.read cwd s.path = .ok (Utf8.encode text) ∧ ¬ IsDigits (Text.trim text)
  /-- Nothing else is reported. -/
  no_other : ∀ e, s.load files cwd = .error e →
    (∃ fault, e = .file s.path fault) ∨ e = .malformed s.path

/-- What is read from a file that cannot be read. -/
theorem load_of_read_error {fault : FileFault} (h : files.read cwd s.path = .error fault) :
    s.load files cwd = .error (.file s.path fault) := by
  simp [load, FileTree.readText, h, bind, Except.bind]

/-- What is read from a file that holds no text. -/
theorem load_of_no_text {content : Bytes} (h : files.read cwd s.path = .ok content)
    (hno : ∀ text, content ≠ Utf8.encode text) :
    s.load files cwd = .error (.file s.path .notText) := by
  have hdecode : Utf8.decode? content = none := by
    rcases htext : Utf8.decode? content with _ | text
    · rfl
    · exact absurd (Utf8.eq_encode_of_decode? htext) (hno text)
  simp [load, FileTree.readText, h, hdecode, bind, Except.bind, throw, throwThe,
    MonadExceptOf.throw]

/-- What is read from a file that holds a text. -/
theorem load_of_text {text : String} (h : files.read cwd s.path = .ok (Utf8.encode text)) :
    s.load files cwd = (ofHex (Text.trim text)).mapError fun _ => .malformed s.path := by
  have htext : files.readText cwd s.path = .ok text := by
    simp [FileTree.readText, h, Utf8.decode?_encode, bind, Except.bind, pure, Except.pure]
  rw [load_of_read htext, ofHex]
  rcases ofHex? (Text.trim text) with _ | hash <;> rfl

theorem loadsText (s : Sidecar) (files : FileTree) (cwd : Location) : LoadsText s files cwd := by
  -- the file cannot be read, or holds no text, or holds a text that is 32 digits or is not
  rcases hread : files.read cwd s.path with fault | content
  · have hload := load_of_read_error hread
    constructor <;> simp [hload, hread, eq_comm]
  by_cases htext : ∃ text, content = Utf8.encode text
  case neg =>
    have hno : ∀ text, content ≠ Utf8.encode text := fun text heq => htext ⟨text, heq⟩
    have hload := load_of_no_text hread hno
    constructor <;> simp [hload, hread, hno, eq_comm]
  obtain ⟨text, rfl⟩ := htext
  have hload := load_of_text hread
  have hinj : ∀ text', Utf8.encode text = Utf8.encode text' ↔ text = text' :=
    fun text' => ⟨Utf8.encode_inj, congrArg _⟩
  by_cases hdigits : IsDigits (Text.trim text)
  · obtain ⟨hash, hhash⟩ := exists_ofHex_iff.2 hdigits
    have hwritten := toHex_of_ofHex hhash
    rw [hhash] at hload
    replace hload : s.load files cwd = .ok hash := hload
    constructor
    case ok_iff =>
      intro hash'
      simp only [hload, hread, Except.ok.injEq, hinj, exists_eq_left', ← hwritten, hdigits,
        true_and]
      constructor
      · rintro rfl
        rfl
      · intro hsame
        have hback := ofHex_toHex hash'
        rw [hsame, ofHex_toHex] at hback
        exact Except.ok.inj hback
    all_goals simp [hload, hread, hinj, hdigits]
  · rw [ofHex_of_not_isDigits hdigits] at hload
    replace hload : s.load files cwd = .error (.malformed s.path) := hload
    constructor <;> simp [hload, hread, hinj, hdigits, eq_comm]

end Sidecar

/-- **Hashes are written and read back.** A text is read as a hash if it is 32 digits, of either
case, and only then, and what is read is written in the same digits, in small letters. A hash is
read back from its digits, and a fingerprint from the file into which it was put, unless the path of
that file leads to a device; and of any other content of the file it is told why it is refused. -/
theorem ContentHash.text_round_trip :
    (∀ s, ReadsText s) ∧
    (∀ hash, IsDigits hash.toHex ∧ ofHex hash.toHex = .ok hash) ∧
    (∀ (s : Sidecar) (files files' : FileTree) (cwd : Location) (hash : ContentHash),
      s.save files cwd hash = .ok files' → files.isDevice cwd s.path = false →
        s.load files' cwd = .ok hash) ∧
    ∀ (s : Sidecar) (files : FileTree) (cwd : Location), s.LoadsText files cwd := by
  refine ⟨readsText, fun hash => ?_, fun s files files' cwd hash => Sidecar.load_of_save,
    Sidecar.loadsText⟩
  exact ⟨exists_ofHex_iff.1 ⟨hash, ofHex_toHex hash⟩, ofHex_toHex hash⟩

/-- A fingerprint of sixteen bytes. -/
def ContentHash.small : ContentHash := ⟨List.replicate 15 0 ++ [0xAB], rfl⟩

/-- The small fingerprint is read from capital letters, and put into a file it is read back. -/
theorem ContentHash.text_round_trip_small :
    ofHex "000000000000000000000000000000AB" = .ok small ∧
    small.toHex = "000000000000000000000000000000ab" ∧
    ∃ files, Sidecar.save ⟨⟨"/a.xxh3"⟩⟩ .empty [] small = .ok files ∧
      Sidecar.load ⟨⟨"/a.xxh3"⟩⟩ files [] = .ok small := by
  have hread : ofHex "000000000000000000000000000000AB" = .ok small :=
    ofHex_eq_ok_iff.2 (by decide +kernel)
  obtain ⟨hreads, -, hkept, -⟩ := text_round_trip
  refine ⟨hread, ?_, ?_⟩
  · rw [(hreads _).written small hread]
    decide +kernel
  · have hsaved : (Sidecar.save ⟨⟨"/a.xxh3"⟩⟩ .empty [] small).isOk = true := by decide +kernel
    rcases hsave : Sidecar.save ⟨⟨"/a.xxh3"⟩⟩ .empty [] small with e | files
    · simp [hsave, Except.isOk, Except.toBool] at hsaved
    · exact ⟨files, rfl, hkept _ _ _ _ _ hsave (by decide +kernel)⟩

/-- **A fingerprint is not always loaded.** Where its path leads to a device, nothing is kept. -/
theorem Sidecar.not_always_loaded :
    ¬ ∀ (s : Sidecar) (files files' : FileTree) (cwd : Location) (hash : ContentHash),
      s.save files cwd hash = .ok files' → s.load files' cwd = .ok hash := by
  intro h
  let files : FileTree :=
    { entries := [("dev", .directory [("null", .device .null)]), ("a.xxh3", .link ⟨"/dev/null"⟩)] }
  have hlost : ((Sidecar.save ⟨⟨"/a.xxh3"⟩⟩ files [] .small).toOption.map
      fun files => (Sidecar.load ⟨⟨"/a.xxh3"⟩⟩ files []).isOk) = some false := by decide +kernel
  rcases hsave : Sidecar.save ⟨⟨"/a.xxh3"⟩⟩ files [] .small with e | files'
  · simp [hsave, Except.toOption] at hlost
  · rw [hsave] at hlost
    simp [Except.toOption, h _ _ _ _ _ hsave, Except.isOk, Except.toBool] at hlost

end ModuleBuild
