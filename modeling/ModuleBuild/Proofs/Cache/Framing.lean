import ModuleBuild.Proofs.Cache.Snapshot

/-!
# The hashed stream is unambiguous

A hash can only tell two contents apart if it is taken of different streams. So the stream must
not let two lists of sections look the same: not when bytes of one section stand in its
neighbour, not when two sections stand as one, and not when a section is missing. Every section
stands behind its length in eight bytes, and this is what keeps the lists apart. It is no matter
what the sections hold; a section may well look like a length with bytes behind it.

A length of eight bytes is the length modulo `2 ^ 64`, so the law is about sections that are
shorter (`ContentHash.Framable`). Without that, a section of `2 ^ 64` bytes would stand behind the
length of an empty one.

## Main definitions

* `ContentHash.Framable` — the length of every section fits into its frame
* `ContentHash.Regrouped` — bytes have moved to a neighbour, or there is a section more or less
* `FingerprintInputs.stream?` — the stream that the fingerprint over the present files is taken of

## Main results

* `ContentHash.stream_eq_iff` — equal streams are streams of equal sections
* `FingerprintInputs.stream_unambiguous` — equal streams are streams of equal contents
-/

namespace ModuleBuild

/-! ### Sections of one domain -/

namespace ContentHash

variable {a b : List Bytes}

/-- The length of every section fits into its frame. -/
def Framable (sections : List Bytes) : Prop := ∀ part ∈ sections, part.length < UInt64.size

/-- One list of sections is another in which bytes have moved over a border, or a border is gone,
or a section is new. What moves bytes the other way, splits a section or drops one is the same
relation, read from right to left. -/
inductive Regrouped : List Bytes → List Bytes → Prop where
  /-- The first bytes of a section are now the last ones of the section before it. -/
  | moved (before after : List Bytes) (left bytes right : Bytes) (h : bytes ≠ []) :
      Regrouped (before ++ left :: (bytes ++ right) :: after)
        (before ++ (left ++ bytes) :: right :: after)
  /-- Two neighbours are now one section. -/
  | merged (before after : List Bytes) (left right : Bytes) :
      Regrouped (before ++ left :: right :: after) (before ++ (left ++ right) :: after)
  /-- There is a section more. -/
  | added (before after : List Bytes) (part : Bytes) :
      Regrouped (before ++ after) (before ++ part :: after)

theorem Regrouped.ne (h : Regrouped a b) : a ≠ b := by
  intro heq
  cases h with
  | moved before after left bytes right hbytes =>
    -- the lists are as long as each other; it is the section on the left that has grown
    have hleft : left = left ++ bytes := (List.cons.inj (List.append_cancel_left heq)).1
    exact hbytes (List.self_eq_append_right.1 hleft)
  | merged before after left right =>
    have hlength := congrArg List.length heq
    simp only [List.length_append, List.length_cons] at hlength
    omega
  | added before after part =>
    have hlength := congrArg List.length heq
    simp only [List.length_append, List.length_cons] at hlength
    omega

/-- **Equal streams of one domain are streams of equal sections.** -/
theorem stream_eq_iff {domain : String} (ha : Framable a) (hb : Framable b) :
    stream domain a = stream domain b ↔ a = b := by
  constructor
  · intro h
    rw [stream, stream, List.flatMap_cons, List.flatMap_cons] at h
    exact flatMap_frame_inj ha hb (List.append_cancel_left h)
  · rintro rfl
    rfl

end ContentHash

/-! ### What a fingerprint is taken of -/

/-- The stream tells whether two snapshots agree in each of their parts. -/
theorem Snapshot.stream_eq_iff_parts {s s' : Snapshot} (hs : s.Fits) (hs' : s'.Fits) :
    s.stream = s'.stream ↔
      s.tool = s'.tool ∧ s.target = s'.target ∧ s.manifest = s'.manifest ∧
        s.config = s'.config := by
  constructor
  · intro h
    rw [stream_inj hs hs' h]
    exact ⟨rfl, rfl, rfl, rfl⟩
  · rintro ⟨htool, htarget, hmanifest, hconfig⟩
    rw [stream, stream, sections, sections, htool, htarget, hmanifest, hconfig]

namespace FingerprintInputs

open ContentHash (frame Framable Regrouped)

variable {i i' : FingerprintInputs} {files files' : FileTree} {cwd cwd' : Location}
  {s s' : Snapshot}

/-- The stream that the fingerprint over the present files is taken of. -/
def stream? (i : FingerprintInputs) (files : FileTree) (cwd : Location) :
    Except CacheError Bytes :=
  (i.sections files cwd).map (ContentHash.stream domain)

/-- The fingerprint is the hash of that stream. -/
theorem compute_eq_map_stream? :
    i.compute files cwd = (i.stream? files cwd).map ContentHash.ofStream := by
  unfold compute stream?
  cases i.sections files cwd with
  | error e => rfl
  | ok sections => rfl

theorem Reads.stream?_eq (h : i.Reads files cwd s) : i.stream? files cwd = .ok s.stream := by
  simp only [FingerprintInputs.stream?, FingerprintInputs.sections, readInput, h.tool, h.target,
    h.manifest, h.config]
  rfl

/-- The order of the sections: the domain, the three files, the texts one by one. -/
theorem stream_eq_frames (s : Snapshot) :
    s.stream = frame (Utf8.encode domain) ++ (frame s.tool ++ (frame s.target ++
      (frame s.manifest ++ s.config.flatMap fun text => frame (Utf8.encode text)))) := by
  rw [Snapshot.stream, ContentHash.stream, Snapshot.sections]
  simp only [List.flatMap_cons, List.flatMap_map]

/-- **The hashed stream is unambiguous.** Lists of sections of one domain have equal streams only
if they are equal, so no bytes move over a border and no section comes or goes without a trace;
and the streams of two fingerprints are equal exactly if the contents of the three files and the
texts are. -/
theorem stream_unambiguous :
    (∀ name a b, Framable a → Framable b →
      (ContentHash.stream name a = ContentHash.stream name b ↔ a = b) ∧
      (Regrouped a b ∨ Regrouped b a →
        ContentHash.stream name a ≠ ContentHash.stream name b)) ∧
    ∀ (i i' : FingerprintInputs) files files' cwd cwd' s s',
      i.Reads files cwd s → i'.Reads files' cwd' s' → s.Fits → s'.Fits →
      (i.compute files cwd = (i.stream? files cwd).map ContentHash.ofStream ∧
        i.stream? files cwd = .ok (frame (Utf8.encode domain) ++ (frame s.tool ++
          (frame s.target ++ (frame s.manifest ++
            i.config.flatMap fun text => frame (Utf8.encode text)))))) ∧
      (i.stream? files cwd = i'.stream? files' cwd' ↔
        s.tool = s'.tool ∧ s.target = s'.target ∧ s.manifest = s'.manifest ∧
          i.config = i'.config) := by
  constructor
  · intro name a b ha hb
    have hiff : ContentHash.stream name a = ContentHash.stream name b ↔ a = b :=
      ContentHash.stream_eq_iff ha hb
    refine ⟨hiff, ?_⟩
    rintro (hchanged | hchanged) heq
    · exact hchanged.ne (hiff.1 heq)
    · exact hchanged.ne (hiff.1 heq).symm
  · intro i i' files files' cwd cwd' s s' h h' hs hs'
    refine ⟨⟨compute_eq_map_stream?, ?_⟩, ?_⟩
    · rw [h.stream?_eq, stream_eq_frames, h.config]
    · rw [h.stream?_eq, h'.stream?_eq, h.config, h'.config, Except.ok.injEq]
      exact Snapshot.stream_eq_iff_parts hs hs'

/-- Three files, of which one holds what looks like a framed section. -/
def lookalikeTree : FileTree :=
  { entries := [("tool", .file [1, 0, 0, 0, 0, 0, 0, 0, 7] true), ("target", .file [] false),
      ("manifest", .file [7] false)] }

/-- A fingerprint over the three files. -/
def lookalike : FingerprintInputs := ⟨⟨"/tool"⟩, ⟨"/target"⟩, ⟨"/manifest"⟩, ["all"]⟩

/-- What a reader of the three files finds. -/
def lookalikeContents : Snapshot := ⟨[1, 0, 0, 0, 0, 0, 0, 0, 7], [], [7], ["all"]⟩

/-- A byte that moves over a border changes the stream; the lookalike is hashed as another stream
than the section that it looks like; and the three files as another one than the same files in
another order. -/
theorem stream_unambiguous_lookalike :
    ContentHash.stream "test" [[97], [98, 99]] ≠ ContentHash.stream "test" [[97, 98], [99]] ∧
      ContentHash.stream "test" [[1, 0, 0, 0, 0, 0, 0, 0, 7]] ≠
        ContentHash.stream "test" [[], [7]] ∧
      lookalike.stream? lookalikeTree [] ≠
        { lookalike with tool := ⟨"/target"⟩, target := ⟨"/tool"⟩ }.stream? lookalikeTree [] := by
  have hfits : ∀ s : Snapshot, s.tool.length < 16 → s.target.length < 16 →
      s.manifest.length < 16 → s.config = ["all"] → s.Fits := by
    intro s htool htarget hmanifest hconfig part hpart
    have hsize : 16 < UInt64.size := by decide
    simp only [Snapshot.sections, hconfig, List.map_cons, List.map_nil, List.mem_cons,
      List.not_mem_nil, or_false] at hpart
    have hall : (Utf8.encode "all").length < 16 := by decide
    rcases hpart with rfl | rfl | rfl | rfl <;> omega
  refine ⟨?_, ?_, ?_⟩
  · have h := (stream_unambiguous.1 "test" [[97], [98, 99]] [[97, 98], [99]]
      (by unfold Framable; decide) (by unfold Framable; decide)).2
    exact h (.inl (.moved [] [] [97] [98] [99] (by decide)))
  · have h := (stream_unambiguous.1 "test" [[1, 0, 0, 0, 0, 0, 0, 0, 7]] [[], [7]]
      (by unfold Framable; decide) (by unfold Framable; decide)).1
    exact fun heq => absurd (h.1 heq) (by decide)
  · have h := stream_unambiguous.2 lookalike
      { lookalike with tool := ⟨"/target"⟩, target := ⟨"/tool"⟩ } lookalikeTree lookalikeTree [] []
      lookalikeContents ⟨[], [1, 0, 0, 0, 0, 0, 0, 0, 7], [7], ["all"]⟩
      ⟨rfl, rfl, rfl, rfl⟩
      ⟨rfl, rfl, rfl, rfl⟩
      (hfits _ (by decide) (by decide) (by decide) rfl)
      (hfits _ (by decide) (by decide) (by decide) rfl)
    exact fun heq => absurd (h.2.1 heq).1 (by decide)

end FingerprintInputs

end ModuleBuild
