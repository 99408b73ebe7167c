import ModuleBuild.Proofs.Config.Given
import ModuleBuild.Proofs.Toml.Reading
import ModuleBuild.Proofs.Toml.Writing

/-!
# Configuration files are loaded

A text that gives values to some of the keys is loaded as the configuration that has these values
and the defaults elsewhere. What a text gives can be told on three levels: by the table that the
reader makes of it, by the lines that the grammar finds in it, and for plain documents by their keys
and sections alone. There is such a text for every choice of values.

## Main definitions

* `Config.Given.text` — a text with the given values

## Main results

* `Config.parse_given` — such texts are loaded, and no text is loaded as settings that no build can
  use
-/

namespace ModuleBuild

namespace Config

namespace Given

variable (g : Given)

/-- The sections with what is written in them. -/
def simple : List (String × List (String × Option Toml.Simple)) :=
  [("tools", [("debase", g.debase.map .text), ("llc", g.llc.map .text)]),
    ("build", [("profile", g.profile.map fun p => .text p.name),
      ("frame_pointer", g.framePointer.map fun p => .text p.name),
      ("manifest", g.manifest.map .text)]),
    ("lower", [("regalloc", g.regalloc.map .text), ("jobs", g.jobs.map .number)])]

/-- A text with the given values. -/
def text : String := (Toml.Written.ofGiven g.simple).text

theorem sections_eq :
    g.sections = g.simple.map fun s => (s.1, s.2.map fun k => (k.1, k.2.map Toml.Simple.node)) := by
  simp [sections, tools, build, lower, simple, Function.comp_def, Toml.Simple.node]

theorem nodup_simple : (g.simple.map Prod.fst).Nodup :=
  show ["tools", "build", "lower"].Nodup by decide

theorem nodup_keys_simple : ∀ s ∈ g.simple, (s.2.map Prod.fst).Nodup := by
  simp only [simple, List.forall_mem_cons, List.map_cons, List.map_nil]
  exact ⟨by decide, by decide, by decide, by simp⟩

/-- What is written has the given values. -/
theorem in_ofGiven : g.In (Toml.Written.ofGiven g.simple).layout.entries := by
  intro s hs
  rw [sections_eq] at hs
  obtain ⟨t, ht, rfl⟩ := List.mem_map.1 hs
  obtain ⟨inner, hinner, hholds⟩ :=
    Toml.Written.exists_hasSection_ofGiven g.nodup_simple g.nodup_keys_simple ht
  refine ⟨inner, hinner, fun k hk => ?_⟩
  obtain ⟨m, hm, rfl⟩ := List.mem_map.1 hk
  exact hholds m hm

variable {g}

theorem inRange_simple (h : g.Proper) : (Toml.Written.ofGiven g.simple).InRange := by
  have hmap : ∀ {α : Type} (o : Option α) (f : α → Toml.Simple), (∀ a ∈ o, (f a).InRange) →
      ∀ v ∈ o.map f, v.InRange := by
    intro α o f hf v hv
    obtain ⟨a, ha, rfl⟩ := Option.map_eq_some_iff.1 hv
    exact hf a ha
  refine Toml.Written.inRange_ofGiven ?_
  simp only [simple, List.forall_mem_cons]
  refine ⟨⟨hmap _ _ fun _ _ => trivial, hmap _ _ fun _ _ => trivial, by simp⟩,
    ⟨hmap _ _ fun _ _ => trivial, hmap _ _ fun _ _ => trivial, hmap _ _ fun _ _ => trivial,
      by simp⟩, ⟨hmap _ _ fun _ _ => trivial, hmap _ _ fun n hn => (h.jobs n hn).2, by simp⟩,
      by simp⟩

/-! ### Loading -/

/-- A document whose lines give the values. -/
theorem parse_of_told {text : String} {l : List Toml.Statement} (h : g.Proper)
    (htext : Toml.Document l text) (hl : (Toml.assemble l).isSome) (htold : g.Told l) :
    parse text = .ok g.config := by
  obtain ⟨entries, hentries⟩ := Option.isSome_iff_exists.1 hl
  exact parse_of_in h ((Toml.parse_document htext).trans hentries)
    (htold.inEntries htext hentries)

/-- A plain document whose keys and sections have the values. -/
theorem parse_of_layout {text : String} {d : Toml.Layout} (h : g.Proper) (hd : d.Distinct)
    (hin : g.In d.entries) (htext : Toml.Document d.statements text) :
    parse text = .ok g.config :=
  parse_of_in h ((Toml.parse_document htext).trans (Toml.Layout.assemble_statements hd)) hin

end Given

/-- **A text that gives values to some of the keys is loaded as the configuration with these
values** and the defaults elsewhere, whether its values are told by the table that it spells, by its
lines, or by the keys and sections of a plain document; and there is such a text. **Whatever a text
is,** it is loaded as settings that a build can use, or refused. -/
theorem parse_given :
    (∀ g : Given, g.Proper →
      (∀ text entries, Toml.parse text = some entries → g.In entries →
        parse text = .ok g.config) ∧
      (∀ text l, Toml.Document l text → (Toml.assemble l).isSome → g.Told l →
        parse text = .ok g.config) ∧
      (∀ text (d : Toml.Layout), d.Distinct → g.In d.entries → Toml.Document d.statements text →
        parse text = .ok g.config) ∧
      parse g.text = .ok g.config) ∧
    ∀ text, (∃ c, parse text = .ok c ∧ c.Usable) ∨
      (∃ reason, parse text = .error (.malformed reason)) ∨
      (∃ value, parse text = .error (.missing value)) ∨ parse text = .error .noJobs := by
  refine ⟨fun g h => ⟨fun text entries hentries hin => ?_, fun text l htext hl htold => ?_,
    fun text d hd hin htext => ?_, ?_⟩, usable_or_error⟩
  · exact Given.parse_of_in h hentries hin
  · exact Given.parse_of_told h htext hl htold
  · exact Given.parse_of_layout h hd hin htext
  · exact Given.parse_of_layout h
      (Toml.Written.distinct_ofGiven g.nodup_simple g.nodup_keys_simple) g.in_ofGiven
      (Toml.Written.document_text (Given.inRange_simple h))

theorem in_nil : ({} : Given).In [] := by
  have hnone : ∀ key, Toml.Holds [] key none := fun key node => by simp
  intro s hs
  refine ⟨[], .absent (hnone s.1), ?_⟩
  simp only [Given.sections, Given.tools, Given.build, Given.lower, List.mem_cons,
    List.not_mem_nil, or_false] at hs
  rcases hs with rfl | rfl | rfl <;> simp [hnone]

/-- Three values out of seven. -/
def threeGiven : Given := { llc := some "llc-17", regalloc := some "", jobs := some 4 }

/-- A document with the three values, its sections and keys in another order, and other keys and
another table among them. -/
def reordered : Toml.Written where
  root := [("owner", .text "me")]
  sections := [("lower", [("jobs", .number 4), ("spare", .number 2), ("regalloc", .text "")]),
    ("extra", [("llc", .text "other")]), ("tools", [("llc", .text "llc-17")])]

theorem proper_threeGiven : threeGiven.Proper :=
  ⟨by decide, by decide, by decide, by simp [threeGiven]⟩

theorem document_reordered : Toml.Document reordered.layout.statements reordered.text :=
  Toml.Written.document_text ⟨by decide, by decide⟩

theorem distinct_reordered : reordered.layout.Distinct :=
  ⟨by decide, by decide⟩

theorem in_reordered : threeGiven.In reordered.layout.entries := by
  have hroot : (Toml.keys reordered.layout.entries).Nodup := by decide
  simp only [Given.In, Given.sections, List.forall_mem_cons]
  refine ⟨⟨_, .present (Toml.holds_lookup hroot "tools") (.table _ _), ?_⟩,
    ⟨_, .absent (Toml.holds_lookup hroot "build"), ?_⟩,
    ⟨_, .present (Toml.holds_lookup hroot "lower") (.table _ _), ?_⟩, by simp⟩
  · simp only [Given.tools, List.forall_mem_cons]
    exact ⟨Toml.holds_lookup (by decide) "debase", Toml.holds_lookup (by decide) "llc", by simp⟩
  · simp only [Given.build, List.forall_mem_cons]
    exact ⟨Toml.holds_lookup (by decide) "profile", Toml.holds_lookup (by decide) "frame_pointer",
      Toml.holds_lookup (by decide) "manifest", by simp⟩
  · simp only [Given.lower, List.forall_mem_cons]
    exact ⟨Toml.holds_lookup (by decide) "regalloc", Toml.holds_lookup (by decide) "jobs", by simp⟩

/-- One value out of seven. -/
def jobsGiven : Given := { jobs := some 4 }

/-- The lines of a document with a dotted key and an array of tables. -/
def dotted : List Toml.Statement :=
  [.entry ["lower", "jobs"] (.integer 4), .element ["extra"]]

/-- A text with these lines and a comment. -/
def dottedText : String := "lower.jobs = 4 # few\n[[extra]]"

theorem proper_jobsGiven : jobsGiven.Proper :=
  ⟨by decide, by decide, by decide, by simp [jobsGiven]⟩

theorem document_dotted : Toml.Document dotted dottedText := by
  have hlower : Toml.SpellsKeyPart "lower" ['l', 'o', 'w', 'e', 'r'] :=
    .bare (by simp) (List.all_eq_true.1 rfl)
  have hjobs : Toml.SpellsKeyPart "jobs" ['j', 'o', 'b', 's'] :=
    .bare (by simp) (List.all_eq_true.1 rfl)
  have hextra : Toml.SpellsKeyPart "extra" ['e', 'x', 't', 'r', 'a'] :=
    .bare (by simp) (List.all_eq_true.1 rfl)
  have hentry : Toml.Spells (Toml.depthLimit - 1) (.member (["lower", "jobs"], .integer 4)) _ :=
    .member (.dotted Toml.isBlanks_nil hlower Toml.isBlanks_nil
        (.last Toml.isBlanks_nil hjobs Toml.isBlanks_blank)) (by decide) Toml.isBlanks_blank
      (.scalar (Toml.spellsScalar_digits (by decide : 4 < Nat.pow 2 63)))
  have hheader : Toml.SpellsStatement (.element ["extra"]) _ :=
    .element (.last Toml.isBlanks_nil hextra Toml.isBlanks_nil) (by decide)
  exact .more (.statement Toml.isBlanks_nil (.entry hentry) (.comment Toml.isBlanks_blank
      (List.all_eq_true.1 (show [' ', 'f', 'e', 'w'].all Toml.isCommentChar = true from rfl))))
    .feed (.last (.statement Toml.isBlanks_nil hheader (.blanks Toml.isBlanks_nil)))

theorem told_dotted : jobsGiven.Told dotted := by
  constructor
  · simp only [Given.sections, Given.tools, Given.build, Given.lower, List.forall_mem_cons]
    exact ⟨⟨⟨by decide, rfl⟩, ⟨by decide, rfl⟩, by simp⟩,
      ⟨⟨by decide, rfl⟩, ⟨by decide, rfl⟩, ⟨by decide, rfl⟩, by simp⟩,
      ⟨⟨by decide, rfl⟩, ⟨by decide, rfl⟩, by simp⟩, by simp⟩
  · intro s hs v hv
    obtain ⟨hpath, -⟩ := Prod.mk.inj (List.mem_singleton.1 hv)
    exact absurd hpath (by simp)

/-- No value at all in an empty text, one in a document with a dotted key, three in a plain
document, and the same three in a text made for them. -/
theorem parse_given_examples :
    (({} : Given).Proper ∧ Toml.parse "" = some [] ∧ ({} : Given).In [] ∧ parse "" = .ok {}) ∧
    (jobsGiven.Proper ∧ Toml.Document dotted dottedText ∧ (Toml.assemble dotted).isSome ∧
      jobsGiven.Told dotted ∧ parse dottedText = .ok { jobs := 4 }) ∧
    (threeGiven.Proper ∧ reordered.layout.Distinct ∧ threeGiven.In reordered.layout.entries ∧
      Toml.Document reordered.layout.statements reordered.text ∧
      parse reordered.text = .ok { llc := "llc-17", regalloc := "", jobs := 4 }) ∧
    parse threeGiven.text = .ok { llc := "llc-17", regalloc := "", jobs := 4 } := by
  have hproper : ({} : Given).Proper := ⟨by decide, by decide, by decide, by simp⟩
  have hempty : Toml.parse "" = some [] := rfl
  have hdotted : (Toml.assemble dotted).isSome := by decide
  obtain ⟨htable, -, -, -⟩ := parse_given.1 {} hproper
  obtain ⟨-, hlines, -, -⟩ := parse_given.1 jobsGiven proper_jobsGiven
  obtain ⟨-, -, hlayout, htext⟩ := parse_given.1 threeGiven proper_threeGiven
  exact ⟨⟨hproper, hempty, in_nil, htable _ _ hempty in_nil⟩,
    ⟨proper_jobsGiven, document_dotted, hdotted, told_dotted,
      hlines _ _ document_dotted hdotted told_dotted⟩,
    ⟨proper_threeGiven, distinct_reordered, in_reordered, document_reordered,
      hlayout _ _ distinct_reordered in_reordered document_reordered⟩, htext⟩

end Config

end ModuleBuild
