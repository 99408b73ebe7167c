import ModuleBuild.Build.Pipeline
import ModuleBuild.Proofs.Json.Reading
import ModuleBuild.Proofs.Json.Writing

/-!
# What manifests name

A manifest is an object, and the value of its key `files` is what counts: a text names one unit, and
a list of texts names them all. It does not matter how the object is written, or what other keys it
has. Without the key, or with no value, the manifest lists nothing, and any other value is refused.

## Lists in place of objects

An object is also read from a list of the values of its keys, in the order in which the reader knows
them. So a list whose only item names units is taken as a manifest, although it is none, and
`Manifest.not_always_refused` shows such a list. Every other document that is no object is refused,
and then no unit is lowered.

## Main definitions

* `Manifest.Names` — what the value of the key `files` names
* `Manifest.namesOf` — that, or why the value is refused
* `Manifest.Listed` — a list that is read as an object

## Main results

* `Manifest.parse_keyed` — what is made of an object
* `Manifest.parse_object` — which objects are manifests, and what they name
* `Manifest.parse_other` — which other documents are taken as manifests
-/

namespace ModuleBuild

open Json

namespace Manifest

variable {v : Tree} {text : String}

/-! ### The value of the key -/

/-- What the value of the key `files` names. -/
inductive Names : Tree → List String → Prop where
  /-- A text names one unit. -/
  | one (s : String) : Names (.text (some s)) [s]
  /-- A list of texts names units in order. -/
  | list (names : List String) : Names (.list (names.map fun s => .text (some s))) names

/-- What is named by a value, nothing by the absence of one, or why the value is refused. -/
def namesOf (v : Tree) : Except Json.Error (Option (List String)) :=
  match v with
  | .null => .ok none
  | .text (some s) => .ok (some [s])
  | .list items => (items.mapM fun v => textOf "a string" v.first).map some
  | v => .error (v.first.unexpected expected)

/-- **What a value names.** -/
theorem namesOf_eq_ok {names : Option (List String)} :
    namesOf v = .ok names ↔ v = .null ∧ names = none ∨ ∃ l, Names v l ∧ names = some l := by
  constructor
  · intro h
    unfold namesOf at h
    split at h
    · exact .inl ⟨rfl, (Except.ok.inj h).symm⟩
    · exact .inr ⟨_, .one _, (Except.ok.inj h).symm⟩
    · rename_i items
      rcases hitems : items.mapM fun v => textOf "a string" v.first with e | l
      · simp [hitems, Except.map] at h
      · rw [hitems] at h
        rw [mapM_textOf_eq_ok.1 hitems]
        exact .inr ⟨l, .list l, (Except.ok.inj h).symm⟩
    · simp at h
  · rintro (⟨rfl, rfl⟩ | ⟨l, h, rfl⟩)
    · rfl
    · cases h with
      | one s => rfl
      | list l => rw [namesOf, mapM_textOf_eq_ok.2 rfl]; rfl

theorem namesOf_eq_ok_some {names : List String} :
    namesOf v = .ok (some names) ↔ Names v names := by
  simp [namesOf_eq_ok]

/-- The value is read whatever follows it. -/
theorem readNames_words (v : Tree) (rest : List Token) :
    readNames (v.words ++ rest) = (namesOf v).map (·, rest) := by
  cases v with
  | list items =>
    rw [Tree.words, List.cons_append, List.append_assoc, List.singleton_append, readNames,
      readItems_words (fun v _ => isSingle_textOf "a string" v), namesOf]
    generalize (items.mapM fun v => textOf "a string" v.first) = names
    rcases names with e | names <;> rfl
  | text s => cases s <;> rfl
  | null => rfl
  | bool b => rfl
  | number n => rfl
  | object fields => rfl

/-! ### Objects -/

/-- What becomes of the names when a field is read. -/
def stepField (old : Option (Option (List String))) (f : String × Tree) :
    Except Json.Error (Option (Option (List String))) :=
  if f.1 = "files" then
    if old.isSome then .error (.mismatch (.duplicate "files")) else (namesOf f.2).map some
  else .ok old

theorem readsField (f : String × Tree) : ReadsField readField stepField f := by
  intro old rest
  unfold readField stepField
  split
  · rename_i hkey
    rw [readOnce, hkey]
    split
    · rfl
    · simp only [afterColon, bind, Except.bind, pure, Except.pure, readNames_words]
      rcases namesOf f.2 with e | names <;> rfl
  · rw [skipField_words]
    rfl

/-- Fields with other keys do not matter. -/
theorem foldlM_stepField_of_ne {fields : List (String × Tree)}
    (h : ∀ f ∈ fields, f.1 ≠ "files") (old : Option (Option (List String))) :
    fields.foldlM stepField old = .ok old := by
  induction fields with
  | nil => rfl
  | cons f fields ih =>
    rw [List.foldlM_cons, stepField, if_neg (h f List.mem_cons_self)]
    exact ih fun f hf => h f (List.mem_cons_of_mem _ hf)

/-- The value of the one field with the key is what counts. -/
theorem foldlM_stepField {fields : List (String × Tree)}
    (h : (fields.map Prod.fst).count "files" ≤ 1) :
    fields.foldlM stepField none =
      match fields.lookup "files" with
      | none => .ok none
      | some v => (namesOf v).map some := by
  induction fields with
  | nil => rfl
  | cons f fields ih =>
    obtain ⟨k, v⟩ := f
    rw [List.foldlM_cons, stepField]
    by_cases hk : k = "files"
    · subst hk
      have hothers : ∀ f ∈ fields, f.1 ≠ "files" := by
        intro f hf heq
        have hcount : 0 < (fields.map Prod.fst).count "files" :=
          List.count_pos_iff.2 (heq ▸ List.mem_map_of_mem hf)
        simp at h
        omega
      simp only [if_pos, Option.isSome_none, Bool.false_eq_true, if_false, List.lookup_cons_self]
      rcases namesOf v with e | names
      · rfl
      · exact foldlM_stepField_of_ne hothers (some names)
    · have hlookup : ((k, v) :: fields).lookup "files" = fields.lookup "files" := by
        rw [List.lookup_cons, beq_false_of_ne (Ne.symm hk)]
      rw [if_neg hk, hlookup]
      refine ih ?_
      rw [List.map_cons, List.count_cons_of_ne hk] at h
      exact h

/-- What is made of a value of the key `files`, or of its absence. -/
def ofNames (path : Path) : Except Json.Error (Option (List String)) → Except BuildError Manifest
  | .ok (some names) => .ok ⟨names.map Path.ofText⟩
  | .ok none => .error (.manifestWithoutFiles path)
  | .error reason => .error (.manifestInvalid path reason)

theorem parse_of_read (path : Path) {names : Except Json.Error (Option (List String))}
    (h : Document v text) (hread : read v.words = names.map (·, [])) :
    parse path text = ofNames path names := by
  rw [parse, readDocument, h.tokens, hread]
  rcases names with e | _ | names <;> rfl

/-- **What is made of an object** in which the key `files` does not stand twice. -/
theorem parse_keyed (path : Path) (fields : List (String × Tree))
    (h : Document (.object (fields.map keyed)) text)
    (honce : (fields.map Prod.fst).count "files" ≤ 1) :
    parse path text = ofNames path
      (match fields.lookup "files" with
      | none => .ok none
      | some v => namesOf v) := by
  refine parse_of_read path h ?_
  rw [Tree.words, read, readObject_words fun f _ => readsField f, foldlM_stepField honce]
  rcases fields.lookup "files" with _ | v
  · rfl
  · dsimp only
    rcases namesOf v with e | names <;> rfl

/-- **Which objects are manifests, and what they name.** The value of the key `files` decides,
however the object is written and whatever other keys it has. In particular what names units is read
back from the written object. -/
theorem parse_object :
    (∀ (path : Path) (fields : List (String × Tree)) (text : String),
      Document (.object (fields.map keyed)) text → (fields.map Prod.fst).count "files" ≤ 1 →
      (∀ v names, fields.lookup "files" = some v → Names v names →
        parse path text = .ok ⟨names.map Path.ofText⟩) ∧
      (fields.lookup "files" = none ∨ fields.lookup "files" = some .null →
        parse path text = .error (.manifestWithoutFiles path)) ∧
      ∀ v, fields.lookup "files" = some v → v ≠ .null → (∀ names, ¬ Names v names) →
        ∃ reason, parse path text = .error (.manifestInvalid path reason)) ∧
    (∀ (path : Path) (names : List String),
      let written : Json := .object [("files", .texts names)]
      parse path written.compact = .ok ⟨names.map Path.ofText⟩ ∧
      parse path written.pretty = .ok ⟨names.map Path.ofText⟩) ∧
    ∀ (path : Path) (name text text' : String),
      Document (.object [(some "files", .text (some name))]) text →
      Document (.object [(some "files", .list [.text (some name)])]) text' →
        parse path text = parse path text' := by
  have hone : ∀ (path : Path) (v : Tree) (names : List String) (text : String),
      Document (.object [(some "files", v)]) text → Names v names →
        parse path text = .ok ⟨names.map Path.ofText⟩ := by
    intro path v names text hdocument hnames
    rw [parse_keyed path [("files", v)] hdocument (by simp), List.lookup_cons_self]
    dsimp only
    rw [namesOf_eq_ok_some.2 hnames]
    rfl
  refine ⟨?_, ?_, ?_⟩
  · intro path fields text hdocument honce
    rw [parse_keyed path fields hdocument honce]
    refine ⟨?_, ?_, ?_⟩
    · intro v names hlookup hnames
      rw [hlookup]
      dsimp only
      rw [namesOf_eq_ok_some.2 hnames]
      rfl
    · rintro (hlookup | hlookup) <;> rw [hlookup] <;> rfl
    · intro v hlookup hnull hnone
      rw [hlookup]
      dsimp only
      rcases hnames : namesOf v with reason | names
      · exact ⟨reason, rfl⟩
      · rcases namesOf_eq_ok.1 hnames with ⟨rfl, -⟩ | ⟨l, hl, -⟩
        · exact absurd rfl hnull
        · exact absurd hl (hnone l)
  · intro path names written
    have hproper : written.IsProper := by
      simp [written, IsProper, AreProperFields, texts, areProper_iff]
    have htree : written.tree =
        .object [(some "files", .list (names.map fun s => .text (some s)))] := by
      simp [written, tree, fieldTrees, texts, itemTrees_eq_map]
    exact ⟨hone path _ names _ (htree ▸ document_compact hproper) (.list names),
      hone path _ names _ (htree ▸ document_pretty hproper) (.list names)⟩
  · intro path name text text' htext htext'
    rw [hone path _ _ _ htext (.one name), hone path _ _ _ htext' (.list [name])]

/-- The name of a unit after a key with an escaped letter, and another key before it. -/
theorem parse_object_escaped :
    let fields : List (String × Tree) :=
      [("version", .list [.null]), ("files", .text (some "a.bc"))]
    let text := "\x7b \"version\":[null], \"\\u0066iles\" : \"a.bc\"\x7d"
    Document (.object (fields.map keyed)) text ∧ (fields.map Prod.fst).count "files" ≤ 1 ∧
      fields.lookup "files" = some (.text (some "a.bc")) ∧
      parse ⟨"/w/lib/app.json"⟩ text = .ok ⟨[.ofText "a.bc"]⟩ := by
  intro fields text
  have hversion : Spells (.member (some "version", .list [.null])) _ :=
    .member isBlanks_blank (spells_quote "version") isBlanks_nil
      (.element isBlanks_nil
        (.list (.items (.element isBlanks_nil .null isBlanks_nil) .noMoreItems)) isBlanks_nil)
  obtain ⟨letters, hletters, hread⟩ := exists_letters ['i', 'l', 'e', 's']
  have hkey := SpellsText.quoted (.cons (.code (a := '0') (b := '0') (c := '6') (d := '6')
    (i := 0) (j := 0) (k := 6) (l := 6) rfl rfl rfl rfl) hletters)
  rw [Letter.read?_single rfl rfl, hread] at hkey
  have hfiles : Spells (.member (some "files", .text (some "a.bc"))) _ :=
    .member isBlanks_blank hkey isBlanks_blank
      (.element isBlanks_blank (.text (spells_quote "a.bc")) isBlanks_nil)
  have hspells := Spells.element isBlanks_nil
    (.object (.fields hversion (.moreFields hfiles .noMoreFields))) isBlanks_nil
  have hdocument : Document (.object (fields.map keyed)) text := by
    rw [Document]
    refine Eq.mp (congrArg (Spells _) ?_) hspells
    decide +kernel
  exact ⟨hdocument, by decide, rfl,
    (parse_object.1 ⟨"/w/lib/app.json"⟩ fields text hdocument (by decide)).1 _ _ rfl (.one "a.bc")⟩

/-! ### Other documents -/

/-- A list is read as an object if its only item is what the value of the key `files` may be. -/
def Listed (v : Tree) (names : List String) : Prop := ∃ w, v = .list [w] ∧ Names w names

/-- What is made of a list. -/
theorem read_list (items : List Tree) :
    ∃ names, read (Tree.list items).words = Except.map (·, []) names ∧
      ∀ l, names = .ok (some l) ↔ Listed (.list items) l := by
  rw [Tree.words, read]
  rcases items with _ | ⟨w, items⟩
  · refine ⟨.ok none, rfl, fun l => ?_⟩
    simp [Listed]
  rw [itemWords, List.append_assoc, readElement_words, readNames_words]
  rcases items with _ | ⟨w', items⟩
  · refine ⟨namesOf w, ?_, fun l => ?_⟩
    · rcases namesOf w with e | names <;> rfl
    · rw [namesOf_eq_ok_some]
      simp [Listed]
  · -- a second item is no more than a fault of the text to the reader
    rcases hnames : namesOf w with e | names
    · exact ⟨.error e, rfl, fun l => by simp [Listed]⟩
    · exact ⟨.error .malformed, rfl, fun l => by simp [Listed]⟩

/-- What is made of a document that is no object. -/
theorem read_other (hv : ∀ fields, v ≠ .object fields) :
    ∃ names, read v.words = Except.map (·, []) names ∧ ∀ l, names = .ok (some l) ↔ Listed v l := by
  have hrefused : (∀ items, v ≠ .list items) → ∃ e, read v.words = .error e := by
    intro hlist
    cases v with
    | list items => exact absurd rfl (hlist items)
    | object fields => exact absurd rfl (hv fields)
    | text s => cases s <;> exact ⟨_, rfl⟩
    | _ => exact ⟨_, rfl⟩
  by_cases hlist : ∃ items, v = .list items
  · obtain ⟨items, rfl⟩ := hlist
    exact read_list items
  · obtain ⟨e, he⟩ := hrefused fun items heq => hlist ⟨items, heq⟩
    refine ⟨.error e, he, fun l => ?_⟩
    simp only [reduceCtorEq, false_iff]
    rintro ⟨w, rfl, -⟩
    exact hlist ⟨[w], rfl⟩

/-- **Which other documents are taken as manifests.** A document that is no object is refused,
unless it is a list whose only item names units. From a refused document no unit is lowered: the
step ends at once, and nothing has changed. -/
theorem parse_other {σ : Type} (h : Document v text) (hv : ∀ fields, v ≠ .object fields)
    (path : Path) :
    (∀ names, Listed v names → parse path text = .ok ⟨names.map Path.ofText⟩) ∧
    ((∀ names, ¬ Listed v names) →
      ∃ e, (e = .manifestWithoutFiles path ∨ ∃ reason, e = .manifestInvalid path reason) ∧
        parse path text = .error e ∧
        ∀ (b : Builder σ) (r : Request) (st : BuildState σ),
          st.files.readText b.cwd path = .ok text →
            (b.lowerStep r path).run st = (.error e, st)) := by
  obtain ⟨names, hread, hnames⟩ := read_other hv
  have hparse := parse_of_read path h hread
  constructor
  · intro l hl
    rw [hparse, (hnames l).2 hl]
    rfl
  · intro hnone
    have hlower : ∀ e, parse path text = .error e → ∀ (b : Builder σ) (r : Request)
        (st : BuildState σ), st.files.readText b.cwd path = .ok text →
          (b.lowerStep r path).run st = (.error e, st) := by
      intro e he b r st htext
      rw [Builder.run_lowerStep, load, htext]
      dsimp only
      rw [he]
    rcases names with reason | _ | l
    · exact ⟨_, .inr ⟨reason, rfl⟩, hparse, hlower _ hparse⟩
    · exact ⟨_, .inl rfl, hparse, hlower _ hparse⟩
    · exact absurd ((hnames l).1 rfl) (hnone l)

/-- A list of a list of names is taken as a manifest, and a list of two names is refused. -/
theorem parse_other_listed :
    Document (.list [.list [.text (some "lib/a.bc")]]) "[[\"lib/a.bc\"]]" ∧
    parse ⟨"/w/lib/app.json"⟩ "[[\"lib/a.bc\"]]" = .ok ⟨[.ofText "lib/a.bc"]⟩ ∧
    Document (.list [.text (some "a.bc"), .text (some "b.bc")]) "[\"a.bc\",\"b.bc\"]" ∧
    ∃ e, parse ⟨"/w/lib/app.json"⟩ "[\"a.bc\",\"b.bc\"]" = .error e := by
  have hproper : ∀ names, IsProper (.texts names) := fun names => by
    simp [texts, IsProper, areProper_iff]
  have hlisted : Document (.list [.list [.text (some "lib/a.bc")]]) "[[\"lib/a.bc\"]]" := by
    have hdocument := document_compact (v := .list [.texts ["lib/a.bc"]]) ⟨hproper _, trivial⟩
    exact hdocument
  have hpair : Document (.list [.text (some "a.bc"), .text (some "b.bc")])
      "[\"a.bc\",\"b.bc\"]" := by
    have hdocument := document_compact (hproper ["a.bc", "b.bc"])
    exact hdocument
  refine ⟨hlisted, ?_, hpair, ?_⟩
  · exact (parse_other (σ := Unit) hlisted (by simp) _).1 ["lib/a.bc"] ⟨_, rfl, .list ["lib/a.bc"]⟩
  · obtain ⟨e, -, he, -⟩ := (parse_other (σ := Unit) hpair (by simp) ⟨"/w/lib/app.json"⟩).2
      (by simp [Listed])
    exact ⟨e, he⟩

/-- **A document that is no object is not always refused.** -/
theorem not_always_refused :
    ¬ ∀ (path : Path) (v : Tree) (text : String), Document v text →
      (∀ fields, v ≠ .object fields) → ∃ e, parse path text = .error e := by
  intro h
  let written : Json := .list [.texts ["lib/a.bc"]]
  have hproper : written.IsProper := by
    simp [written, texts, IsProper, AreProper]
  have hdocument := document_compact hproper
  obtain ⟨names, hread, hnames⟩ := read_other (v := written.tree) (by simp [written, tree])
  obtain ⟨e, he⟩ := h ⟨"/w/lib/app.json"⟩ _ _ hdocument (by simp [written, tree])
  rw [parse_of_read _ hdocument hread, (hnames ["lib/a.bc"]).2 ⟨_, rfl, .list ["lib/a.bc"]⟩] at he
  simp [ofNames] at he

end Manifest

end ModuleBuild
