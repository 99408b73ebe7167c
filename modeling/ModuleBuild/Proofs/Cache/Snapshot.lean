import ModuleBuild.FileTree.Lemmas
import ModuleBuild.Fingerprint

/-!
# What a fingerprint says

A fingerprint is the hash of the contents of three files and of some texts, framed so that the
hashed stream gives all of them back. So as far as the hash does not collide, equal fingerprints
mean equal contents; and a fingerprint that was put into its file is read back from it.

## Main definitions

* `Snapshot` — what a fingerprint is taken of, with `Snapshot.stream` and `Snapshot.hash`
* `FingerprintInputs.Reads` — the contents that are found in the files
* `Snapshot.Collides` — two streams that are different and have the same hash

## Main results

* `Snapshot.stream_inj` — the stream gives the contents back
* `Snapshot.eq_of_hash_eq` — so does the fingerprint, as far as the hash does not collide
* `Sidecar.load_of_saved` — a fingerprint is read back
* `Sidecar.afterRefresh_of_error` — what is left where a fingerprint cannot be kept
* `Sidecar.isFresh_iff` — what it is to be fresh
-/

namespace ModuleBuild

/-! ### Streams -/

namespace ContentHash

/-- **Framed sections are told apart.** -/
theorem flatMap_frame_inj {a b : List Bytes} (ha : ∀ part ∈ a, part.length < UInt64.size)
    (hb : ∀ part ∈ b, part.length < UInt64.size) (h : a.flatMap frame = b.flatMap frame) :
    a = b := by
  induction a generalizing b with
  | nil =>
    cases b with
    | nil => rfl
    | cons part rest =>
      have := congrArg List.length h
      simp [frame] at this
      omega
  | cons part rest ih =>
    cases b with
    | nil =>
      have := congrArg List.length h
      simp [frame] at this
    | cons part' rest' =>
      rw [List.flatMap_cons, List.flatMap_cons] at h
      obtain ⟨rfl, hrest⟩ := frame_append_inj (ha part List.mem_cons_self)
        (hb part' List.mem_cons_self) h
      rw [ih (fun p hp => ha p (List.mem_cons_of_mem _ hp))
        (fun p hp => hb p (List.mem_cons_of_mem _ hp)) hrest]

/-- The digits of a hash are those of its bytes. -/
theorem exists_digit_of_mem_toHex {hash : ContentHash} {c : Char} (h : c ∈ hash.toHex.toList) :
    ∃ n < 16, c = Hex.digit n :=
  Hex.exists_digit_of_mem_encode (by simpa [toHex] using h)

/-- The digits of a hash are no blanks. -/
theorem isBlank_of_mem_toHex (hash : ContentHash) :
    ∀ c ∈ hash.toHex.toList, Text.isBlank c = false := by
  have hdigit : ∀ n < 16, Text.isBlank (Hex.digit n) = false := by decide
  intro c hc
  obtain ⟨n, hn, rfl⟩ := exists_digit_of_mem_toHex hc
  exact hdigit n hn

end ContentHash

/-! ### Snapshots -/

/-- What a fingerprint is taken of: the contents of three files, and the configuration texts. -/
structure Snapshot where
  /-- The first tool. -/
  tool : Bytes
  /-- The target module. -/
  target : Bytes
  /-- The manifest. -/
  manifest : Bytes
  /-- The configuration texts. -/
  config : List String
  deriving DecidableEq

namespace Snapshot

/-- The sections that are hashed. -/
def sections (s : Snapshot) : List Bytes :=
  s.tool :: s.target :: s.manifest :: s.config.map Utf8.encode

/-- The stream that is hashed. -/
def stream (s : Snapshot) : Bytes := ContentHash.stream FingerprintInputs.domain s.sections

/-- The fingerprint. -/
def hash (s : Snapshot) : ContentHash := ContentHash.ofStream s.stream

/-- The length of every section fits into its frame. -/
def Fits (s : Snapshot) : Prop := ∀ part ∈ s.sections, part.length < UInt64.size

/-- Two snapshots have different streams with one hash. -/
def Collides (s s' : Snapshot) : Prop := s.stream ≠ s'.stream ∧ s.hash = s'.hash

/-- **The stream gives the contents back.** -/
theorem stream_inj {s s' : Snapshot} (hs : s.Fits) (hs' : s'.Fits) (h : s.stream = s'.stream) :
    s = s' := by
  simp only [stream, ContentHash.stream, List.flatMap_cons] at h
  have hsections : s.sections = s'.sections :=
    ContentHash.flatMap_frame_inj hs hs' (List.append_cancel_left h)
  simp only [sections, List.cons.injEq] at hsections
  obtain ⟨htool, htarget, hmanifest, hconfig⟩ := hsections
  have hinj : s.config = s'.config := List.map_inj_right (fun _ _ => Utf8.encode_inj) |>.1 hconfig
  cases s
  cases s'
  simp_all

/-- **Equal fingerprints mean equal contents**, unless the two streams collide. -/
theorem eq_of_hash_eq {s s' : Snapshot} (hs : s.Fits) (hs' : s'.Fits) (hno : ¬ s.Collides s')
    (h : s.hash = s'.hash) : s = s' := by
  by_cases hstream : s.stream = s'.stream
  · exact stream_inj hs hs' hstream
  · exact absurd ⟨hstream, h⟩ hno

end Snapshot

namespace FingerprintInputs

variable {i : FingerprintInputs} {files : FileTree} {cwd : Location} {s s' : Snapshot}

/-- The contents that are found in the files. -/
structure Reads (i : FingerprintInputs) (files : FileTree) (cwd : Location) (s : Snapshot) :
    Prop where
  /-- The first tool. -/
  tool : files.read cwd i.tool = .ok s.tool
  /-- The target module. -/
  target : files.read cwd i.target = .ok s.target
  /-- The manifest. -/
  manifest : files.read cwd i.manifest = .ok s.manifest
  /-- The configuration texts. -/
  config : i.config = s.config

/-- A fingerprint is that of the contents that are found. -/
theorem compute_eq_ok {hash : ContentHash} :
    i.compute files cwd = .ok hash ↔ ∃ s, i.Reads files cwd s ∧ hash = s.hash := by
  constructor
  · intro h
    simp only [compute, sections, readInput] at h
    rcases htool : files.read cwd i.tool with fault | tool
    · simp [htool, bind, Except.bind] at h
    rcases htarget : files.read cwd i.target with fault | target
    · simp [htool, htarget, bind, Except.bind] at h
    rcases hmanifest : files.read cwd i.manifest with fault | manifest
    · simp [htool, htarget, hmanifest, bind, Except.bind] at h
    rw [htool, htarget, hmanifest] at h
    exact ⟨⟨tool, target, manifest, i.config⟩, ⟨htool, htarget, hmanifest, rfl⟩,
      (Except.ok.inj h).symm⟩
  · rintro ⟨s, hs, rfl⟩
    simp only [compute, sections, readInput, hs.tool, hs.target, hs.manifest, hs.config]
    rfl

end FingerprintInputs

namespace Sidecar

variable {s : Sidecar} {files files' : FileTree} {cwd l : Location} {i : FingerprintInputs}
  {hash : ContentHash}

theorem refresh_eq_ok : s.refresh files cwd i = .ok (hash, files') ↔
    i.compute files cwd = .ok hash ∧ s.save files cwd hash = .ok files' := by
  unfold refresh
  rcases i.compute files cwd with e | present
  · simp [bind, Except.bind]
  rcases hsave : s.save files cwd present with e | saved
  · simp only [hsave, bind, Except.bind, Except.ok.injEq, reduceCtorEq, false_iff, not_and]
    rintro rfl h
    simp [hsave] at h
  · simp only [hsave, bind, Except.bind, pure, Except.pure, Except.ok.injEq, Prod.mk.injEq]
    constructor
    · rintro ⟨rfl, rfl⟩
      exact ⟨rfl, hsave⟩
    · rintro ⟨rfl, h⟩
      exact ⟨rfl, Except.ok.inj (hsave.symm.trans h)⟩

theorem save_eq_ok : s.save files cwd hash = .ok files' ↔
    files.write cwd s.path (content hash) = .ok files' := by
  unfold save
  cases files.write cwd s.path (content hash) <;> simp

/-- The file of a fingerprint has one character for each digit, and a line break. -/
theorem length_content (hash : ContentHash) : (content hash).length = 33 := by
  have hdigit : ∀ n < 16, (Hex.digit n).toNat < 128 := by decide
  have hascii : ∀ c ∈ (hash.toHex ++ "\n").toList, c.toNat < 128 := by
    intro c hc
    rw [String.toList_append, List.mem_append] at hc
    rcases hc with hc | hc
    · obtain ⟨n, hn, rfl⟩ := ContentHash.exists_digit_of_mem_toHex hc
      exact hdigit n hn
    · obtain rfl : c = '\n' := by simpa using hc
      decide
  rw [content, Utf8.encode_of_ascii hascii]
  simp [ContentHash.toHex, hash.length_bytes]

/-- An attempt that does not fail leaves the fingerprint. -/
theorem afterRefresh_of_ok (h : s.refresh files cwd i = .ok (hash, files')) :
    s.afterRefresh files cwd i = files' := by
  obtain ⟨hcompute, hsave⟩ := refresh_eq_ok.1 h
  rw [afterRefresh, hcompute]
  exact FileTree.afterWrite_of_ok (save_eq_ok.1 hsave)

/-- An attempt to take a fingerprint anew that fails changes nothing, or there is no room and the
file is left empty. -/
theorem afterRefresh_of_error {e : CacheError} (h : s.refresh files cwd i = .error e) :
    s.afterRefresh files cwd i = files ∨
      e = .file s.path .noSpace ∧ files.isDevice cwd s.path = false ∧
        files.write cwd s.path [] = .ok (s.afterRefresh files cwd i) := by
  unfold refresh at h
  unfold afterRefresh
  rcases hcompute : i.compute files cwd with fault | hash
  · exact .inl rfl
  simp only [hcompute, save, bind, Except.bind] at h
  rcases hwrite : files.write cwd s.path (content hash) with fault | saved
  · rw [hwrite] at h
    obtain rfl := Except.error.inj h
    rcases FileTree.afterWrite_of_error hwrite with hsame | ⟨rfl, cut, hcut⟩
    · exact .inl hsame
    · obtain rfl : cut = [] := hcut.eq_nil (by rw [length_content]; decide)
      exact .inr ⟨rfl, hcut.not_device, hcut.written⟩
  · simp [hwrite, pure, Except.pure] at h

/-- **A fingerprint is read back.** -/
theorem load_of_saved {runnable : Bool} (hl : files.locate cwd s.path = .ok l)
    (hf : files.entryAt? l = some (.file (content hash) runnable)) :
    s.load files cwd = .ok hash := by
  have htext : files.readText cwd s.path = .ok (hash.toHex ++ "\n") := by
    simp [FileTree.readText, FileTree.read, FileTree.entry_of_locate hl hf, content,
      Utf8.decode?_encode, bind, Except.bind, pure, Except.pure]
  rw [load_of_read htext, Text.trim_append_newline hash.isBlank_of_mem_toHex,
    ContentHash.ofHex?_toHex]

/-- No fingerprint is read from an empty file. -/
theorem load_of_empty {runnable : Bool} (hl : files.locate cwd s.path = .ok l)
    (hf : files.entryAt? l = some (.file [] runnable)) :
    s.load files cwd = .error (.malformed s.path) := by
  have htext : files.readText cwd s.path = .ok "" := by
    simp [FileTree.readText, FileTree.read, FileTree.entry_of_locate hl hf,
      show Utf8.decode? [] = some "" from Utf8.decode?_encode "",
      bind, Except.bind, pure, Except.pure]
  have hnone : ContentHash.ofHex? (Text.trim "") = none := by decide
  rw [load_of_read htext, hnone]

theorem isFresh_iff : s.isFresh files cwd i = true ↔
    ∃ hash, s.load files cwd = .ok hash ∧ i.compute files cwd = .ok hash := by
  unfold isFresh
  rcases s.load files cwd with e | stored
  · simp
  rcases i.compute files cwd with e | present
  · simp
  · simp only [beq_iff_eq, Except.ok.injEq]
    constructor
    · rintro rfl
      exact ⟨stored, rfl, rfl⟩
    · rintro ⟨hash, rfl, rfl⟩
      rfl

end Sidecar

end ModuleBuild
