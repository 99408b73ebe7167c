import Mathlib.Data.List.Nodup
import ModuleBuild.Toml.Section

/-!
# Sections are read in any order

A section sets the fields of a record one by one, in the order of its entries. If no field looks at
another one, and setting a field twice to the same value is setting it once, then the order of the
entries does not matter: every field that is given a value has it in the end, every other field is
as it was, and entries that are no fields leave no trace.

## Main definitions

* `Toml.Setting` — a field with the value that it is given, and what this does to the record
* `Toml.Setting.ofValue` — the setting of a field by a value
* `Toml.Setting.Independent` — settings that do not look at one another
* `Toml.Holds` — a table that gives a key a value, or none

## Main results

* `Toml.readEntries_settings` — a table that gives the fields their values
* `Toml.readSection_settings` — a section with such a table
-/

namespace ModuleBuild

namespace Toml

/-- A table has one value for a key, or none, where none is given. -/
def Holds (entries : Entries) (key : String) (given : Option Node) : Prop :=
  ∀ node, (key, node) ∈ entries ↔ given = some node

/-- A field with the value that it is given, if it is given one, and what this does to the record.
-/
structure Setting (α : Type) where
  /-- The field. -/
  field : Field α
  /-- Its value. -/
  given : Option Node
  /-- The record with the value. -/
  update : α → α

namespace Setting

variable {α : Type} {s t : Setting α} {settings : List (Setting α)} {a : α}

/-- The field does what the setting says. -/
structure Sound (s : Setting α) : Prop where
  /-- The value is read and put into the record. -/
  set : ∀ node, s.given = some node → ∀ a, s.field.set a node = .ok (s.update a)
  /-- Without a value the record is as it was. -/
  keep : s.given = none → ∀ a, s.update a = a
  /-- The same value once more makes no difference. -/
  again : ∀ a, s.update (s.update a) = s.update a

/-- Settings that do not look at one another. -/
structure Independent (settings : List (Setting α)) : Prop where
  /-- Each field does what its setting says. -/
  sound : ∀ s ∈ settings, s.Sound
  /-- The order does not matter. -/
  comm : ∀ s ∈ settings, ∀ t ∈ settings, ∀ a, s.update (t.update a) = t.update (s.update a)
  /-- No two settings are of one field. -/
  nodup : (settings.map (·.field.name)).Nodup

/-- The record with all values. -/
def applyAll (settings : List (Setting α)) (a : α) : α := settings.foldl (fun a s => s.update a) a

theorem applyAll_cons (s : Setting α) (settings : List (Setting α)) (a : α) :
    applyAll (s :: settings) a = applyAll settings (s.update a) := rfl

/-- A value can be set before the others or after them. -/
theorem applyAll_update (h : ∀ t ∈ settings, ∀ a, s.update (t.update a) = t.update (s.update a))
    (a : α) : applyAll settings (s.update a) = s.update (applyAll settings a) := by
  induction settings generalizing a with
  | nil => rfl
  | cons t settings ih =>
    rw [applyAll_cons, applyAll_cons, ← h t List.mem_cons_self,
      ih fun t ht => h t (List.mem_cons_of_mem _ ht)]

/-- A record with all values does not change when one of them is set. -/
theorem applyAll_of_fixed (h : ∀ s ∈ settings, s.update a = a) : applyAll settings a = a := by
  induction settings with
  | nil => rfl
  | cons s settings ih =>
    rw [applyAll_cons, h s List.mem_cons_self, ih fun s hs => h s (List.mem_cons_of_mem _ hs)]

/-- What is set before all values are makes no difference. -/
theorem Independent.applyAll_absorb (h : Independent settings) (hs : s ∈ settings) (a : α) :
    applyAll settings (s.update a) = applyAll settings a := by
  obtain ⟨front, back, rfl⟩ := List.append_of_mem hs
  have hfront : ∀ t ∈ front, ∀ a, s.update (t.update a) = t.update (s.update a) :=
    fun t ht => h.comm s hs t (List.mem_append_left _ ht)
  have hsplit : ∀ a, applyAll (front ++ s :: back) a =
      applyAll back (s.update (applyAll front a)) := fun a => by
    simp [applyAll, List.foldl_append]
  rw [hsplit, hsplit, applyAll_update hfront, (h.sound s hs).again]

variable {β : Type}

/-- The setting of a field by a value, if there is one. -/
def ofValue (field : Field α) (node : β → Node) (put : α → β → α) (value : Option β) : Setting α :=
  ⟨field, value.map node, fun a => value.elim a (put a)⟩

theorem sound_ofValue {field : Field α} {node : β → Node} {put : α → β → α} {value : Option β}
    (hset : ∀ b, value = some b → ∀ a, field.set a (node b) = .ok (put a b))
    (hagain : ∀ a b, put (put a b) b = put a b) : (ofValue field node put value).Sound := by
  cases value with
  | none => exact ⟨fun _ h => (nomatch h), fun _ _ => rfl, fun _ => rfl⟩
  | some b =>
    refine ⟨fun n hn a => ?_, fun h => (nomatch h), fun a => hagain a b⟩
    obtain rfl : node b = n := Option.some.inj hn
    exact hset b rfl a

end Setting

variable {α : Type} {settings : List (Setting α)} {entries : Entries}

open Setting

/-- An entry sets the field of its name. -/
theorem find?_settings (h : (settings.map (·.field.name)).Nodup) {s : Setting α}
    (hs : s ∈ settings) :
    (settings.map (·.field)).find? (·.name == s.field.name) = some s.field := by
  induction settings with
  | nil => simp at hs
  | cons t settings ih =>
    rw [List.map_cons, List.nodup_cons] at h
    rcases List.mem_cons.1 hs with rfl | hs
    · simp
    · have hne : t.field.name ≠ s.field.name := fun heq =>
        h.1 (List.mem_map.2 ⟨s, hs, heq.symm⟩)
      rw [List.map_cons, List.find?_cons_of_neg (by simpa using hne), ih h.2 hs]

/-- An entry with the value of a setting is read as the setting. -/
theorem readEntries_cons_setting (h : Independent settings) {s : Setting α} (hs : s ∈ settings)
    {node : Node} (hgiven : s.given = some node) (a : α) :
    readEntries (settings.map (·.field)) a ((s.field.name, node) :: entries) =
      readEntries (settings.map (·.field)) (s.update a) entries := by
  rw [readEntries, List.foldlM_cons, readEntry, find?_settings h.nodup hs]
  dsimp only
  rw [(h.sound s hs).set node hgiven a]
  rfl

/-- Any other entry leaves no trace. -/
theorem readEntries_cons_other {name : String} (hname : ¬∃ s ∈ settings, s.field.name = name)
    (node : Node) (a : α) :
    readEntries (settings.map (·.field)) a ((name, node) :: entries) =
      readEntries (settings.map (·.field)) a entries := by
  have hnone : (settings.map (·.field)).find? (·.name == name) = none := by
    refine List.find?_eq_none.2 fun f hf heq => hname ?_
    obtain ⟨s, hs, rfl⟩ := List.mem_map.1 hf
    exact ⟨s, hs, by simpa using heq⟩
  rw [readEntries, List.foldlM_cons, readEntry, hnone]
  rfl

/-- Entries that agree with the settings are read. What they leave open, the settings complete in
the same way as before, and the fields that they name are settled. -/
theorem exists_readEntries (h : Independent settings)
    (hentries : ∀ s ∈ settings, ∀ node, (s.field.name, node) ∈ entries → s.given = some node)
    (a : α) :
    ∃ b, readEntries (settings.map (·.field)) a entries = .ok b ∧
      applyAll settings b = applyAll settings a ∧
      ∀ s ∈ settings, s.update a = a ∨ s.field.name ∈ entries.map Prod.fst → s.update b = b := by
  induction entries generalizing a with
  | nil => exact ⟨a, rfl, rfl, fun s _ hs => by simpa using hs⟩
  | cons e entries ih =>
    obtain ⟨name, node⟩ := e
    have hrest : ∀ s ∈ settings, ∀ node, (s.field.name, node) ∈ entries → s.given = some node :=
      fun s hs node hmem => hentries s hs node (List.mem_cons_of_mem _ hmem)
    by_cases hname : ∃ s ∈ settings, s.field.name = name
    · obtain ⟨s, hs, rfl⟩ := hname
      have hgiven : s.given = some node := hentries s hs node List.mem_cons_self
      obtain ⟨b, hread, happly, hsettled⟩ := ih hrest (s.update a)
      refine ⟨b, ?_, ?_, fun t ht hor => hsettled t ht ?_⟩
      · rw [readEntries_cons_setting h hs hgiven, hread]
      · rw [happly, h.applyAll_absorb hs]
      · -- the field of this entry is settled now, and the others are as they were
        rcases hor with hfixed | hmem
        · exact .inl (by rw [h.comm t ht s hs, hfixed])
        rcases List.mem_cons.1 hmem with heq | hmem
        · obtain rfl : t = s := List.inj_on_of_nodup_map h.nodup ht hs heq
          exact .inl ((h.sound t ht).again a)
        · exact .inr hmem
    · obtain ⟨b, hread, happly, hsettled⟩ := ih hrest a
      refine ⟨b, ?_, happly, fun t ht hor => hsettled t ht ?_⟩
      · rw [readEntries_cons_other hname, hread]
      · rcases hor with hfixed | hmem
        · exact .inl hfixed
        rcases List.mem_cons.1 hmem with heq | hmem
        · exact absurd ⟨t, ht, heq⟩ hname
        · exact .inr hmem

/-- **A table that gives the fields their values** sets them, in whatever order its entries are, and
whatever other entries it has. -/
theorem readEntries_settings (h : Independent settings)
    (hentries : ∀ s ∈ settings, Holds entries s.field.name s.given) (a : α) :
    readEntries (settings.map (·.field)) a entries = .ok (applyAll settings a) := by
  obtain ⟨b, hread, happly, hsettled⟩ :=
    exists_readEntries h (fun s hs node => (hentries s hs node).1) a
  have hfixed : ∀ s ∈ settings, s.update b = b := by
    intro s hs
    rcases hgiven : s.given with _ | node
    · exact (h.sound s hs).keep hgiven b
    · exact hsettled s hs (.inr (List.mem_map.2 ⟨_, (hentries s hs node).2 hgiven, rfl⟩))
  rw [hread, ← happly, applyAll_of_fixed hfixed]

/-- The entries of a table, in braces or not. -/
inductive HasEntries : Node → Entries → Prop where
  /-- A table in braces. -/
  | inline (entries : Entries) : HasEntries (.inline entries) entries
  /-- A table on lines of its own. -/
  | table (origin : Origin) (entries : Entries) : HasEntries (.table origin entries) entries

/-- The entries of the section with a name, which may be missing. -/
inductive HasSection (entries : Entries) (name : String) : Entries → Prop where
  /-- There is no such section. -/
  | absent (h : Holds entries name none) : HasSection entries name []
  /-- There is one. -/
  | present {node : Node} {inner : Entries} (h : Holds entries name (some node))
    (hnode : HasEntries node inner) : HasSection entries name inner

/-- **A section with such a table.** -/
theorem readSection_settings {node : Node} (hnode : HasEntries node entries)
    (h : Independent settings)
    (hentries : ∀ s ∈ settings, Holds entries s.field.name s.given) (kind : String) (a : α) :
    readSection kind (settings.map (·.field)) a node = .ok (applyAll settings a) := by
  cases hnode with
  | inline => exact readEntries_settings h hentries a
  | table => exact readEntries_settings h hentries a

/-- A section that gives the fields their values is one node, from which the fields are read, or it
is missing, and no field is given a value. -/
theorem exists_node_of_hasSection {name : String} (h : Independent settings)
    (hsection : ∃ inner, HasSection entries name inner ∧
      ∀ k ∈ settings.map fun s => (s.field.name, s.given), Holds inner k.1 k.2) :
    ∃ node, Holds entries name node ∧
      (∀ n, node = some n → ∀ (kind : String) (a : α),
        readSection kind (settings.map (·.field)) a n = .ok (applyAll settings a)) ∧
      (node = none → ∀ s ∈ settings, s.given = none) := by
  obtain ⟨inner, hinner, hkeys⟩ := hsection
  have hholds : ∀ s ∈ settings, Holds inner s.field.name s.given :=
    fun s hs => hkeys _ (List.mem_map_of_mem hs)
  cases hinner with
  | absent hname =>
    refine ⟨none, hname, fun n hn => (nomatch hn), fun _ s hs => ?_⟩
    exact Option.eq_none_iff_forall_ne_some.2 fun n hn =>
      List.not_mem_nil ((hholds s hs n).2 hn)
  | @present node _ hname hnode =>
    refine ⟨some node, hname, fun n hn kind a => ?_, fun hn => (nomatch hn)⟩
    obtain rfl := Option.some.inj hn
    exact readSection_settings hnode h hholds kind a

end Toml

end ModuleBuild
