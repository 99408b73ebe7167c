import Mathlib.Data.List.Nodup
import ModuleBuild.Proofs.Toml.Grammar
import ModuleBuild.Proofs.Toml.Section

/-!
# What a document says about a path

The lines of a document build one table. A header or a key with dots may lead through many tables,
begin some of them and move others, so the table is not simply the list of what the lines say. But
at each single path it is: if no line leads through the path, the node there is the one that some
line gives it, be it by a value of its own or inside of a table in braces.

A change of a table is followed through its path one key at a time: what it does behind a key is
what the rest of the change does to the table there, and it does nothing behind other keys.

## Main definitions

* `Toml.Node.at?` — the node at a path
* `Toml.told` — the values that lines give, each with its whole path
* `Toml.given?` — what given values say about a path
* `Toml.Clear` — no line leads through a path
* `Toml.Node.IsSection` — a table without a key given twice

## Main results

* `Toml.changeAt_cons` — how a change goes on behind a key
* `Toml.nodeAt?_assemble` — the table has at a path what the lines say about it
* `Toml.exists_hasSection_assemble` — so has a section under each of its keys
* `Toml.SpellsLines.isSection` — tables in braces are sections
-/

namespace ModuleBuild

namespace Toml

variable {key a : String} {path q : List String} {node v : Node} {entries : Entries}

/-! ### Values under keys -/

/-- The keys of a table. -/
def keys (entries : Entries) : List String := entries.map Prod.fst

/-- The entries with a value for a key, in the place of the old one or behind all others. -/
def put (key : String) (node : Node) (entries : Entries) : Entries :=
  if (entries.lookup key).isSome then replace key node entries else entries ++ [(key, node)]

theorem lookup_eq_none_iff : entries.lookup key = none ↔ key ∉ keys entries := by
  simp only [List.lookup_eq_none_iff, keys, List.mem_map, not_exists, not_and, bne_iff_ne]
  exact ⟨fun h e he heq => h e he heq.symm, fun h e he heq => h e he heq.symm⟩

/-- In a table without a key given twice, the entries are what is found. -/
theorem mem_iff_lookup (h : (keys entries).Nodup) :
    (key, node) ∈ entries ↔ entries.lookup key = some node := by
  induction entries with
  | nil => simp
  | cons e entries ih =>
    obtain ⟨b, n⟩ := e
    obtain ⟨hb, hrest⟩ := List.nodup_cons.1 h
    by_cases heq : key = b
    · subst heq
      have hnot : (key, node) ∉ entries := fun hmem => hb (List.mem_map.2 ⟨_, hmem, rfl⟩)
      simp [hnot, eq_comm]
    · have hne : (key == b) = false := by simpa using heq
      simp [List.lookup_cons, hne, heq, ih hrest]

theorem keys_replace (key : String) (node : Node) (entries : Entries) :
    keys (replace key node entries) = keys entries := by
  rw [keys, keys, replace, List.map_map]
  refine List.map_congr_left fun e _ => ?_
  by_cases h : e.1 = key <;> simp [h]

theorem lookup_replace (key a : String) (node : Node) (entries : Entries) :
    (replace key node entries).lookup a =
      if a = key then (entries.lookup key).map fun _ => node else entries.lookup a := by
  induction entries with
  | nil => simp [replace]
  | cons e entries ih =>
    obtain ⟨b, n⟩ := e
    rw [replace] at ih
    rw [replace, List.map_cons]
    by_cases hb : b = key
    · subst hb
      by_cases ha : a = b
      · simp [ha]
      · have hne : (a == b) = false := by simpa using ha
        simp [List.lookup_cons, hne, ih, ha]
    · have hkey : (key == b) = false := by simpa using Ne.symm hb
      by_cases ha : a = b
      · subst ha
        simp [hb]
      · have hne : (a == b) = false := by simpa using ha
        simp [hb, List.lookup_cons, hne, hkey, ih]

theorem lookup_concat (key a : String) (node : Node) (h : entries.lookup key = none) :
    (entries ++ [(key, node)]).lookup a = if a = key then some node else entries.lookup a := by
  rw [List.lookup_append]
  by_cases ha : a = key
  · subst ha
    simp [h]
  · have hne : (a == key) = false := by simpa using ha
    simp [List.lookup_cons, hne, ha]

theorem nodup_concat (h : entries.lookup key = none) (hentries : (keys entries).Nodup) :
    (keys (entries ++ [(key, node)])).Nodup := by
  rw [keys, List.map_append]
  exact List.nodup_append.2 ⟨hentries, by simp, fun b hb c hc => by
    obtain rfl : c = key := by simpa using hc
    rintro rfl
    exact lookup_eq_none_iff.1 h hb⟩

/-- **A value that is put under a key** is found there, and nothing else changes. -/
theorem lookup_put (key a : String) (node : Node) (entries : Entries) :
    (put key node entries).lookup a = if a = key then some node else entries.lookup a := by
  unfold put
  split
  · rename_i h
    obtain ⟨old, hold⟩ := Option.isSome_iff_exists.1 h
    rw [lookup_replace, hold, Option.map_some]
  · rename_i h
    exact lookup_concat key a node (Option.not_isSome_iff_eq_none.1 h)

theorem nodup_put (key : String) (node : Node) (h : (keys entries).Nodup) :
    (keys (put key node entries)).Nodup := by
  unfold put
  split
  · rwa [keys_replace]
  · rename_i hnone
    exact nodup_concat (Option.not_isSome_iff_eq_none.1 hnone) h

/-! ### Paths -/

/-- The entries inside of a node. The way through a list of tables leads into its last one. -/
def Node.inner : Node → Entries
  | inline entries => entries
  | table _ entries => entries
  | tables items => items.getLast?.getD []
  | _ => []

/-- The node at a path inside of a node. -/
def Node.at? : List String → Node → Option Node
  | [], node => some node
  | key :: path, node => (node.inner.lookup key).bind (at? path)

/-- The node at a path of a table. -/
def nodeAt? (path : List String) (entries : Entries) : Option Node :=
  Node.at? path (.inline entries)

theorem nodeAt?_cons (key : String) (path : List String) (entries : Entries) :
    nodeAt? (key :: path) entries = (entries.lookup key).bind (Node.at? path) := rfl

theorem nodeAt?_nil (h : path ≠ []) : nodeAt? path [] = none := by
  cases path with
  | nil => exact absurd rfl h
  | cons key path => rfl

/-- What is found behind a key is found inside of the node there. -/
theorem Node.at?_eq_nodeAt? (h : path ≠ []) (node : Node) :
    node.at? path = nodeAt? path node.inner := by
  cases path with
  | nil => exact absurd rfl h
  | cons key path => rfl

/-! ### Changes of tables -/

/-- A change of a table, which may fail. -/
abbrev Change := Origin → Entries → Option Entries

variable {f : Change} {dots : Bool}

/-- How a node changes with the entries inside of it. A missing node is a new table. -/
inductive Changed : Option Node → Entries → Entries → Node → Prop where
  /-- A new table. -/
  | begun (origin : Origin) (after : Entries) : Changed none [] after (.table origin after)
  /-- A table. -/
  | table (origin : Origin) (before after : Entries) :
    Changed (some (.table origin before)) before after (.table origin after)
  /-- The last table of a list. -/
  | tables {items : List Entries} {before : Entries} (h : items.getLast? = some before)
    (after : Entries) :
    Changed (some (.tables items)) before after (.tables (items.dropLast ++ [after]))

theorem Changed.inner_eq {old : Option Node} {before after : Entries}
    (h : Changed old before after node) : node.inner = after := by
  cases h <;> simp [Node.inner]

/-- A node that changes was an empty table before, if it was none. -/
theorem Changed.nodeAt?_before {old : Option Node} {before after : Entries}
    (h : Changed old before after node) (hpath : path ≠ []) :
    old.bind (Node.at? path) = nodeAt? path before := by
  cases h with
  | begun => exact (nodeAt?_nil hpath).symm
  | table => exact Node.at?_eq_nodeAt? hpath _
  | tables h =>
    refine (Node.at?_eq_nodeAt? hpath _).trans ?_
    rw [Node.inner, h]
    rfl

/-- **A change goes on behind a key** as the rest of it, and puts the result under the key. -/
theorem changeAt_cons {origin : Origin} {entries' : Entries}
    (h : changeAt dots f (key :: path) origin entries = some entries') :
    ∃ origin' before after node, changeAt dots f path origin' before = some after ∧
      Changed (entries.lookup key) before after node ∧ entries' = put key node entries := by
  rw [changeAt] at h
  split at h
  · rename_i hnone
    obtain ⟨after, hafter, h⟩ := Option.bind_eq_some_iff.1 h
    obtain rfl := Option.some.inj h
    refine ⟨_, [], after, .table (if dots then .dotted else .implied) after, hafter,
      by rw [hnone]; exact .begun _ after, ?_⟩
    rw [put, hnone]
    rfl
  · rename_i origin' before hsome
    split at h
    · exact absurd h (by simp)
    · obtain ⟨after, hafter, h⟩ := Option.bind_eq_some_iff.1 h
      obtain rfl := Option.some.inj h
      refine ⟨_, before, after, _, hafter,
        by rw [hsome]; exact .table origin' before after, ?_⟩
      rw [put, hsome]
      rfl
  · rename_i items hsome
    obtain ⟨before, hbefore, h⟩ := Option.bind_eq_some_iff.1 h
    obtain ⟨after, hafter, h⟩ := Option.bind_eq_some_iff.1 h
    obtain rfl := Option.some.inj h
    refine ⟨_, before, after, _, hafter,
      by rw [hsome]; exact .tables hbefore after, ?_⟩
    rw [put, hsome]
    rfl
  · exact absurd h (by simp)

/-- What a change does to the node at a path: the node before and the one afterwards are related. -/
def ActsAt (f : Change) (path : List String) (R : Option Node → Option Node → Prop) : Prop :=
  ∀ origin entries entries', f origin entries = some entries' →
    R (nodeAt? path entries) (nodeAt? path entries')

/-- What a change does behind a key. -/
theorem ActsAt.cons {R : Option Node → Option Node → Prop}
    (h : ActsAt (changeAt dots f path) q R) (hq : q ≠ []) (key : String) :
    ActsAt (changeAt dots f (key :: path)) (key :: q) R := by
  intro origin entries entries' hchange
  obtain ⟨origin', before, after, node, hafter, hchanged, rfl⟩ := changeAt_cons hchange
  rw [nodeAt?_cons, nodeAt?_cons, lookup_put, if_pos rfl, Option.bind_some,
    hchanged.nodeAt?_before hq, Node.at?_eq_nodeAt? hq, hchanged.inner_eq]
  exact h origin' before after hafter

/-- It does nothing behind another key. -/
theorem actsAt_cons_of_ne (h : a ≠ key) (path q : List String) :
    ActsAt (changeAt dots f (key :: path)) (a :: q) fun before after => after = before := by
  intro origin entries entries' hchange
  obtain ⟨-, -, -, node, -, -, rfl⟩ := changeAt_cons hchange
  rw [nodeAt?_cons, nodeAt?_cons, lookup_put, if_neg h]

/-- **What a change does behind a path** is what it does to the table there. -/
theorem ActsAt.changeAt {R : Option Node → Option Node → Prop} (h : ActsAt f q R) (hq : q ≠ [])
    (dots : Bool) (path : List String) : ActsAt (changeAt dots f path) (path ++ q) R := by
  induction path with
  | nil => exact h
  | cons key path ih => exact ih.cons (by simp [hq]) key

/-- Neither of two paths leads through the other. -/
def Apart (path q : List String) : Prop := ¬path <+: q ∧ ¬q <+: path

/-- A change at one path does nothing at the paths apart from it. -/
def KeepsApart (f : Change) (path : List String) : Prop :=
  ∀ q, Apart path q → ActsAt f q fun before after => after = before

/-- **A change does nothing at paths apart from its own.** -/
theorem KeepsApart.changeAt (h : KeepsApart f q) (dots : Bool) (path : List String) :
    KeepsApart (changeAt dots f path) (path ++ q) := by
  induction path with
  | nil => exact h
  | cons key path ih =>
    rintro (_ | ⟨a, r⟩) hapart
    · exact absurd List.nil_prefix hapart.2
    · by_cases ha : a = key
      · subst ha
        have hr : Apart (path ++ q) r :=
          ⟨fun h => hapart.1 (List.cons_prefix_cons.2 ⟨rfl, h⟩),
            fun h => hapart.2 (List.cons_prefix_cons.2 ⟨rfl, h⟩)⟩
        have hne : r ≠ [] := by
          rintro rfl
          exact hr.2 List.nil_prefix
        exact (ih r hr).cons hne a
      · exact actsAt_cons_of_ne ha path r

/-- A change of the entries under one key. -/
theorem keepsApart_of_lookup (h : ∀ origin entries entries', f origin entries = some entries' →
    ∀ a, a ≠ key → entries'.lookup a = entries.lookup a) : KeepsApart f [key] := by
  rintro (_ | ⟨a, q⟩) hapart origin entries entries' hchange
  · exact absurd List.nil_prefix hapart.2
  · have hne : a ≠ key := by
      rintro rfl
      exact hapart.1 (List.cons_prefix_cons.2 ⟨rfl, List.nil_prefix⟩)
    rw [nodeAt?_cons, nodeAt?_cons, h _ _ _ hchange a hne]

/-- A change repeats no key. -/
def KeepsNodup (f : Change) : Prop :=
  ∀ origin entries entries', f origin entries = some entries' → (keys entries).Nodup →
    (keys entries').Nodup

theorem KeepsNodup.changeAt (h : KeepsNodup f) (dots : Bool) (path : List String) :
    KeepsNodup (changeAt dots f path) := by
  cases path with
  | nil => exact h
  | cons key path =>
    intro origin entries entries' hchange hentries
    obtain ⟨-, -, -, node, -, -, rfl⟩ := changeAt_cons hchange
    exact nodup_put key node hentries

/-- What cannot be done to any table cannot be done behind a path. -/
theorem changeAt_eq_none (h : ∀ origin entries, f origin entries = none) (dots : Bool)
    (path : List String) (origin : Origin) (entries : Entries) :
    changeAt dots f path origin entries = none := by
  induction path generalizing origin entries with
  | nil => exact h origin entries
  | cons key path ih =>
    refine Option.eq_none_iff_forall_not_mem.2 fun entries' hchange => ?_
    obtain ⟨origin', before, after, -, hafter, -⟩ := changeAt_cons hchange
    exact Option.some_ne_none _ (hafter.symm.trans (ih origin' before))

/-! ### Values -/

/-- A change that adds a value under a new key, and nothing else. -/
def Adds (f : Change) (key : String) (v : Node) : Prop :=
  ∀ origin entries entries', f origin entries = some entries' →
    entries.lookup key = none ∧ entries' = entries ++ [(key, v)]

theorem Adds.keepsNodup (h : Adds f key v) : KeepsNodup f := by
  intro origin entries entries' hchange hentries
  obtain ⟨hnone, rfl⟩ := h origin entries entries' hchange
  exact nodup_concat hnone hentries

/-- A change that puts a value at a path, and nothing else. Nothing was behind this path before. -/
structure PutsAt (f : Change) (path : List String) (v : Node) : Prop where
  /-- Behind the path is what the value has inside. -/
  here : ∀ q, ActsAt f (path ++ q) fun before after => before = none ∧ after = v.at? q
  /-- Apart from the path nothing changes. -/
  apart : KeepsApart f path

theorem Adds.putsAt (h : Adds f key v) : PutsAt f [key] v := by
  constructor
  · intro q origin entries entries' hchange
    obtain ⟨hnone, rfl⟩ := h origin entries entries' hchange
    rw [List.singleton_append, nodeAt?_cons, nodeAt?_cons, lookup_concat key key v hnone, hnone,
      if_pos rfl]
    exact ⟨rfl, rfl⟩
  · refine keepsApart_of_lookup fun origin entries entries' hchange a hne => ?_
    obtain ⟨hnone, rfl⟩ := h origin entries entries' hchange
    rw [lookup_concat key a v hnone, if_neg hne]

theorem PutsAt.changeAt (h : PutsAt f q v) (hq : q ≠ []) (dots : Bool) (path : List String) :
    PutsAt (changeAt dots f path) (path ++ q) v where
  here r := by
    rw [List.append_assoc]
    exact (h.here r).changeAt (by simp [hq]) dots path
  apart := h.apart.changeAt dots path

/-- A key with dots leads to a table, in which the last part of the key is new. -/
theorem exists_adds (path : List String) (key : String) (v : Node) :
    ∃ f, Adds f key v ∧ addEntry path key v = changeAt true f path := by
  refine ⟨_, ?_, rfl⟩
  intro origin entries entries' hchange
  dsimp only at hchange
  split at hchange
  · exact absurd hchange (by simp)
  split at hchange
  · exact absurd hchange (by simp)
  · rename_i hnone
    exact ⟨Option.not_isSome_iff_eq_none.1 hnone, (Option.some.inj hchange).symm⟩

/-- A value that is added to a table under a key with its parts. -/
def adding (path : List String) (v : Node) : Change := fun _ entries => addAt path v .header entries

theorem adding_nil (v : Node) (origin : Origin) (entries : Entries) :
    adding [] v origin entries = none := rfl

theorem exists_adding (hpath : path ≠ []) (v : Node) :
    ∃ front key f, path = front ++ [key] ∧ Adds f key v ∧
      ∀ origin, adding path v origin = changeAt true f front .header := by
  obtain ⟨f, hf, heq⟩ := exists_adds path.dropLast (path.getLast hpath) v
  refine ⟨path.dropLast, path.getLast hpath, f, (List.dropLast_append_getLast hpath).symm, hf, ?_⟩
  intro origin
  rw [← heq]
  funext entries
  rw [adding, addAt, List.getLast?_eq_some_getLast hpath]

/-- **A value is put under its key,** and nothing else changes. -/
theorem putsAt_adding (hpath : path ≠ []) (v : Node) : PutsAt (adding path v) path v := by
  obtain ⟨front, key, f, rfl, hf, heq⟩ := exists_adding hpath v
  have hputs := hf.putsAt.changeAt (by simp) true front
  constructor
  · intro q origin entries entries' hchange
    rw [heq] at hchange
    exact hputs.here q .header entries entries' hchange
  · intro q hapart origin entries entries' hchange
    rw [heq] at hchange
    exact hputs.apart q hapart .header entries entries' hchange

theorem keepsNodup_adding (path : List String) (v : Node) : KeepsNodup (adding path v) := by
  intro origin entries entries' hchange
  have hpath : path ≠ [] := by
    rintro rfl
    exact Option.some_ne_none _ (hchange.symm.trans (adding_nil v origin entries))
  obtain ⟨front, key, f, rfl, hf, heq⟩ := exists_adding hpath v
  rw [heq] at hchange
  exact hf.keepsNodup.changeAt true front _ _ _ hchange

/-! ### Headers -/

/-- A change that begins a table, or goes on with one: what is in it stays. -/
structure Opens (f : Change) (key : String) : Prop where
  /-- The table has the entries that it had before. -/
  here : ∀ origin entries entries', f origin entries = some entries' →
    ∃ inner, entries'.lookup key = some (.table .header inner) ∧
      (entries.lookup key = none ∧ inner = [] ∨
        ∃ origin', entries.lookup key = some (.table origin' inner))
  /-- Nothing else changes. -/
  other : ∀ origin entries entries', f origin entries = some entries' → ∀ a, a ≠ key →
    entries'.lookup a = entries.lookup a
  /-- No key is repeated. -/
  nodup : KeepsNodup f

theorem lookup_filter_ne (key a : String) (entries : Entries) :
    (entries.filter (·.1 ≠ key)).lookup a = if a = key then none else entries.lookup a := by
  induction entries with
  | nil => simp
  | cons e entries ih =>
    obtain ⟨b, n⟩ := e
    by_cases hb : b = key
    · subst hb
      rw [List.filter_cons_of_neg (by simp), ih]
      by_cases ha : a = b
      · simp [ha]
      · have hne : (a == b) = false := by simpa using ha
        simp [ha, List.lookup_cons, hne]
    · rw [List.filter_cons_of_pos (by simpa using hb), List.lookup_cons, List.lookup_cons, ih]
      by_cases ha : a = b
      · subst ha
        simp [hb]
      · have hne : (a == b) = false := by simpa using ha
        simp [hne]

/-- A header of one key adds the table behind the others, with what was in it. -/
theorem openTable_nil {origin : Origin} {entries' : Entries}
    (h : openTable [] key origin entries = some entries') :
    ∃ inner kept, kept.lookup key = none ∧ entries' = kept ++ [(key, .table .header inner)] ∧
      (∀ a, a ≠ key → kept.lookup a = entries.lookup a) ∧ List.Sublist kept entries ∧
      (entries.lookup key = none ∧ inner = [] ∨
        ∃ origin', entries.lookup key = some (.table origin' inner)) := by
  simp only [openTable, changeAt] at h
  split at h
  · rename_i hnone
    exact ⟨[], entries, hnone, (Option.some.inj h).symm, fun _ _ => rfl, List.Sublist.refl _,
      .inl ⟨hnone, rfl⟩⟩
  · rename_i inner hsome
    refine ⟨inner, entries.filter (·.1 ≠ key), ?_, (Option.some.inj h).symm, fun a ha => ?_,
      List.filter_sublist, .inr ⟨.implied, hsome⟩⟩
    · rw [lookup_filter_ne, if_pos rfl]
    · rw [lookup_filter_ne, if_neg ha]
  · exact absurd h (by simp)

theorem opens_openTable_nil (key : String) : Opens (openTable [] key) key := by
  constructor
  · intro origin entries entries' hchange
    obtain ⟨inner, kept, hnone, rfl, -, -, hold⟩ := openTable_nil hchange
    exact ⟨inner, by rw [lookup_concat key key _ hnone, if_pos rfl], hold⟩
  · intro origin entries entries' hchange a ha
    obtain ⟨inner, kept, hnone, rfl, hother, -, -⟩ := openTable_nil hchange
    rw [lookup_concat key a _ hnone, if_neg ha, hother a ha]
  · intro origin entries entries' hchange hentries
    obtain ⟨inner, kept, hnone, rfl, -, hsub, -⟩ := openTable_nil hchange
    exact nodup_concat hnone (hentries.sublist (hsub.map Prod.fst))

/-- A header begins a table behind a path. -/
theorem openTable_eq (path : List String) (key : String) :
    openTable path key = changeAt false (openTable [] key) path := rfl

theorem Opens.keepsApart (h : Opens f key) : KeepsApart f [key] := keepsApart_of_lookup h.other

/-- Behind the table that a header begins nothing changes. -/
theorem Opens.actsAt (h : Opens f key) (hq : q ≠ []) :
    ActsAt f (key :: q) fun before after => after = before := by
  intro origin entries entries' hchange
  obtain ⟨inner, hnow, hold⟩ := h.here _ _ _ hchange
  rw [nodeAt?_cons, nodeAt?_cons, hnow, Option.bind_some, Node.at?_eq_nodeAt? hq]
  rcases hold with ⟨hnone, rfl⟩ | ⟨origin', hsome⟩
  · rw [hnone]
    exact nodeAt?_nil hq
  · rw [hsome, Option.bind_some, Node.at?_eq_nodeAt? hq]
    rfl

/-- **A header of a table** changes nothing at a path that it does not lead through. -/
theorem actsAt_openTable (h : ¬q <+: path ++ [key]) :
    ActsAt (openTable path key) q fun before after => after = before := by
  have hopens := opens_openTable_nil key
  rw [openTable_eq]
  by_cases hleads : path ++ [key] <+: q
  · obtain ⟨r, rfl⟩ := hleads
    have hr : r ≠ [] := by
      rintro rfl
      exact h (by simp)
    have hacts := (hopens.actsAt hr).changeAt (by simp) false path
    rwa [List.append_assoc]
  · exact hopens.keepsApart.changeAt false path q ⟨hleads, h⟩

theorem keepsNodup_openTable (path : List String) (key : String) :
    KeepsNodup (openTable path key) :=
  (opens_openTable_nil key).nodup.changeAt false path

/-- A change that puts something under a key. -/
def Puts (f : Change) (key : String) : Prop :=
  ∀ origin entries entries', f origin entries = some entries' →
    ∃ node, entries' = put key node entries

theorem puts_openElement_nil (key : String) : Puts (openElement [] key) key := by
  intro origin entries entries' hchange
  simp only [openElement, changeAt] at hchange
  split at hchange
  · rename_i hnone
    refine ⟨.tables [[]], ?_⟩
    rw [put, hnone]
    exact (Option.some.inj hchange).symm
  · rename_i items hsome
    refine ⟨.tables (items ++ [[]]), ?_⟩
    rw [put, hsome]
    exact (Option.some.inj hchange).symm
  · exact absurd hchange (by simp)

/-- A header of a table in a list puts the list behind a path. -/
theorem openElement_eq (path : List String) (key : String) :
    openElement path key = changeAt false (openElement [] key) path := rfl

theorem Puts.keepsApart (h : Puts f key) : KeepsApart f [key] := by
  refine keepsApart_of_lookup fun origin entries entries' hchange a hne => ?_
  obtain ⟨node, rfl⟩ := h _ _ _ hchange
  rw [lookup_put, if_neg hne]

theorem Puts.keepsNodup (h : Puts f key) : KeepsNodup f := by
  intro origin entries entries' hchange hentries
  obtain ⟨node, rfl⟩ := h _ _ _ hchange
  exact nodup_put key node hentries

/-- **A header of a table in a list** changes nothing at the paths apart from its own. -/
theorem keepsApart_openElement (path : List String) (key : String) :
    KeepsApart (openElement path key) (path ++ [key]) :=
  (puts_openElement_nil key).keepsApart.changeAt false path

theorem keepsNodup_openElement (path : List String) (key : String) :
    KeepsNodup (openElement path key) :=
  (puts_openElement_nil key).keepsNodup.changeAt false path

/-! ### Documents -/

/-- The values that lines give, each with its whole path; `current` is the table that keys go into.
-/
def told : List String → List Statement → List (List String × Node)
  | _, [] => []
  | _, .table path :: rest => told path rest
  | _, .element path :: rest => told path rest
  | current, .entry path v :: rest => (current ++ path, v) :: told current rest

/-- What given values say about a path: one of them is there, or it has something there inside. -/
def given? (q : List String) (values : List (List String × Node)) : Option Node :=
  values.findSome? fun e => if e.1 <+: q then e.2.at? (q.drop e.1.length) else none

theorem given?_cons (q path : List String) (v : Node) (values : List (List String × Node)) :
    given? q ((path, v) :: values) =
      (if path <+: q then v.at? (q.drop path.length) else none).or (given? q values) := by
  rw [given?, List.findSome?_cons]
  dsimp only
  cases (if path <+: q then v.at? (q.drop path.length) else none) <;> rfl

/-- No line leads through a path, and the path does not lead through a list of tables. -/
structure Clear (q : List String) (current : List String) (l : List Statement) : Prop where
  /-- No header of a table leads through it. -/
  table : ∀ path, .table path ∈ l → ¬q <+: path
  /-- Every header of a table in a list is apart from it. -/
  element : ∀ path, .element path ∈ l → Apart path q
  /-- No value is behind it. -/
  value : ∀ e ∈ told current l, q <+: e.1 → e.1 = q

/-- What is clear of lines is clear of those that follow the first one. -/
theorem Clear.tail {q current current' : List String} {s : Statement} {l : List Statement}
    (h : Clear q current (s :: l)) (htold : told current' l ⊆ told current (s :: l)) :
    Clear q current' l where
  table path hmem := h.table path (List.mem_cons_of_mem _ hmem)
  element path hmem := h.element path (List.mem_cons_of_mem _ hmem)
  value e he := h.value e (htold he)

/-- A header does not lead through a path. -/
def Statement.IsClear (q : List String) : Statement → Prop
  | table path => ¬q <+: path
  | element path => Apart path q
  | entry .. => True

instance (path q : List String) : Decidable (Apart path q) :=
  inferInstanceAs (Decidable (_ ∧ _))

instance (q : List String) : DecidablePred (Statement.IsClear q)
  | .table path => inferInstanceAs (Decidable (¬q <+: path))
  | .element path => inferInstanceAs (Decidable (Apart path q))
  | .entry .. => inferInstanceAs (Decidable True)

theorem clear_iff {q current : List String} {l : List Statement} : Clear q current l ↔
    (∀ s ∈ l, s.IsClear q) ∧ ∀ e ∈ told current l, q <+: e.1 → e.1 = q := by
  constructor
  · intro h
    refine ⟨fun s hs => ?_, h.value⟩
    cases s with
    | table path => exact h.table path hs
    | element path => exact h.element path hs
    | entry path v => exact trivial
  · rintro ⟨hheader, hvalue⟩
    exact ⟨fun path hmem => hheader _ hmem, fun path hmem => hheader _ hmem, hvalue⟩

instance (q current : List String) (l : List Statement) : Decidable (Clear q current l) :=
  decidable_of_iff _ clear_iff.symm

variable {current : List String} {l : List Statement} {root : Entries}

/-- A statement that is done to a table is done by a change of it. -/
theorem assembleFrom_table (h : assembleFrom current root (.table path :: l) = some entries) :
    ∃ front key root', path = front ++ [key] ∧ openTable front key .header root = some root' ∧
      assembleFrom path root' l = some entries := by
  rw [assembleFrom] at h
  obtain ⟨key, hkey, h⟩ := Option.bind_eq_some_iff.1 h
  obtain ⟨root', hroot, h⟩ := Option.bind_eq_some_iff.1 h
  exact ⟨path.dropLast, key, root', (List.dropLast_append_getLast? key hkey).symm, hroot, h⟩

theorem assembleFrom_element (h : assembleFrom current root (.element path :: l) = some entries) :
    ∃ front key root', path = front ++ [key] ∧ openElement front key .header root = some root' ∧
      assembleFrom path root' l = some entries := by
  rw [assembleFrom] at h
  obtain ⟨key, hkey, h⟩ := Option.bind_eq_some_iff.1 h
  obtain ⟨root', hroot, h⟩ := Option.bind_eq_some_iff.1 h
  exact ⟨path.dropLast, key, root', (List.dropLast_append_getLast? key hkey).symm, hroot, h⟩

theorem assembleFrom_entry (h : assembleFrom current root (.entry path v :: l) = some entries) :
    ∃ root', path ≠ [] ∧ changeAt false (adding path v) current .header root = some root' ∧
      assembleFrom current root' l = some entries := by
  rw [assembleFrom] at h
  obtain ⟨root', hroot, h⟩ := Option.bind_eq_some_iff.1 h
  refine ⟨root', ?_, hroot, h⟩
  rintro rfl
  have hnone := changeAt_eq_none (adding_nil v) false current .header root
  exact Option.some_ne_none _ (hroot.symm.trans hnone)

/-- The lines that follow put at a path what they say about it, unless something is there already.
-/
theorem nodeAt?_assembleFrom (h : assembleFrom current root l = some entries)
    (hclear : Clear q current l) :
    nodeAt? q entries = (nodeAt? q root).or (given? q (told current l)) := by
  induction l generalizing current root with
  | nil =>
    obtain rfl := Option.some.inj h
    simp [told, given?]
  | cons s l ih =>
    cases s with
    | table path =>
      obtain ⟨front, key, root', rfl, hroot, h⟩ := assembleFrom_table h
      have hrest : Clear q (front ++ [key]) l := hclear.tail (List.Subset.refl _)
      have hstep : nodeAt? q root' = nodeAt? q root :=
        actsAt_openTable (hclear.table _ List.mem_cons_self) _ _ _ hroot
      rw [ih h hrest, hstep]
      rfl
    | element path =>
      obtain ⟨front, key, root', rfl, hroot, h⟩ := assembleFrom_element h
      have hrest : Clear q (front ++ [key]) l := hclear.tail (List.Subset.refl _)
      have hstep : nodeAt? q root' = nodeAt? q root :=
        keepsApart_openElement front key q (hclear.element _ List.mem_cons_self) _ _ _ hroot
      rw [ih h hrest, hstep]
      rfl
    | entry path v =>
      obtain ⟨root', hpath, hroot, h⟩ := assembleFrom_entry h
      have hrest : Clear q current l := hclear.tail (List.subset_cons_self _ _)
      have hputs := (putsAt_adding hpath v).changeAt hpath false current
      rw [ih h hrest, told, given?_cons]
      by_cases hleads : current ++ path <+: q
      · obtain ⟨r, rfl⟩ := hleads
        obtain ⟨hbefore, hafter⟩ := hputs.here r _ _ _ hroot
        rw [hbefore, hafter, if_pos (List.prefix_append _ _), List.drop_left, Option.none_or]
      · have hother : ¬q <+: current ++ path := fun h =>
          hleads (hclear.value _ List.mem_cons_self h ▸ List.prefix_refl _)
        rw [hputs.apart q ⟨hleads, hother⟩ _ _ _ hroot, if_neg hleads, Option.none_or]

/-- **The table has at a path what the lines say about it.** -/
theorem nodeAt?_assemble (h : assemble l = some entries) (hq : q ≠ []) (hclear : Clear q [] l) :
    nodeAt? q entries = given? q (told [] l) := by
  rw [nodeAt?_assembleFrom h hclear, nodeAt?_nil hq, Option.none_or]

/-! ### Sections -/

/-- A table, in braces or not, in which no key is given twice. -/
def Node.IsSection (node : Node) : Prop := HasEntries node node.inner ∧ (keys node.inner).Nodup

/-- If there was a section or nothing, there is a section or nothing. -/
def StaysSection (before after : Option Node) : Prop :=
  (∀ node, before = some node → node.IsSection) → ∀ node, after = some node → node.IsSection

theorem Changed.isSection {old : Option Node} {before after : Entries}
    (h : Changed old before after node) (hold : ∀ n, old = some n → n.IsSection)
    (hafter : (keys before).Nodup → (keys after).Nodup) : node.IsSection := by
  cases h with
  | begun origin after => exact ⟨.table _ _, hafter List.nodup_nil⟩
  | table origin before after => exact ⟨.table _ _, hafter (hold _ rfl).2⟩
  | tables h after => exact nomatch (hold _ rfl).1

/-- A change goes on behind a section as in a section. -/
theorem KeepsNodup.staysSection (h : KeepsNodup f) (dots : Bool) (path : List String)
    (hpath : path = [] → ActsAt f [key] StaysSection) :
    ActsAt (Toml.changeAt dots f path) [key] StaysSection := by
  cases path with
  | nil => exact hpath rfl
  | cons b path =>
    by_cases hb : key = b
    · subst hb
      intro origin entries entries' hchange hsection node hnode
      obtain ⟨origin', before, after, node', hafter, hchanged, rfl⟩ := changeAt_cons hchange
      rw [nodeAt?_cons, lookup_put, if_pos rfl] at hnode
      obtain rfl : node' = node := Option.some.inj hnode
      refine hchanged.isSection (fun n hn => hsection n ?_) (h.changeAt dots path _ _ _ hafter)
      rw [nodeAt?_cons, hn]
      rfl
    · intro origin entries entries' hchange hsection node hnode
      rw [actsAt_cons_of_ne hb path [] _ _ _ hchange] at hnode
      exact hsection node hnode

theorem KeepsApart.staysSection {key b : String} (h : KeepsApart f [b]) (hne : key ≠ b) :
    ActsAt f [key] StaysSection := by
  have hapart : Apart [b] [key] := ⟨by simp [Ne.symm hne], by simp [hne]⟩
  intro origin entries entries' hchange hsection node hnode
  rw [h [key] hapart _ _ _ hchange] at hnode
  exact hsection node hnode

theorem staysSection_openTable (path : List String) (b : String) :
    ActsAt (openTable path b) [key] StaysSection := by
  have hopens := opens_openTable_nil b
  rw [openTable_eq]
  refine hopens.nodup.staysSection false path fun _ => ?_
  by_cases hb : key = b
  · subst hb
    intro origin entries entries' hchange hsection node hnode
    obtain ⟨inner, hnow, hold⟩ := hopens.here _ _ _ hchange
    rw [nodeAt?_cons, hnow] at hnode
    obtain rfl : Node.table .header inner = node := Option.some.inj hnode
    rcases hold with ⟨-, rfl⟩ | ⟨origin', hsome⟩
    · exact ⟨.table _ _, List.nodup_nil⟩
    · have hold : (Node.table origin' inner).IsSection :=
        hsection _ (by rw [nodeAt?_cons, hsome]; rfl)
      exact ⟨.table _ _, hold.2⟩
  · exact hopens.keepsApart.staysSection hb

theorem staysSection_openElement {b : String} (h : path ++ [b] ≠ [key]) :
    ActsAt (openElement path b) [key] StaysSection := by
  have hputs := puts_openElement_nil b
  rw [openElement_eq]
  refine hputs.keepsNodup.staysSection false path fun hpath => ?_
  subst hpath
  exact hputs.keepsApart.staysSection fun heq => h (by rw [heq]; rfl)

theorem staysSection_adding {current : List String} (hpath : path ≠ [])
    (h : current ++ path = [key] → v.IsSection) :
    ActsAt (changeAt false (adding path v) current) [key] StaysSection := by
  refine (keepsNodup_adding path v).staysSection false current fun hcurrent => ?_
  obtain ⟨front, b, f, rfl, hf, heq⟩ := exists_adding hpath v
  have hacts : ActsAt (changeAt true f front) [key] StaysSection := by
    refine hf.keepsNodup.staysSection true front fun hfront => ?_
    by_cases hb : key = b
    · subst hb
      intro origin entries entries' hchange _ node hnode
      obtain ⟨hnone, rfl⟩ := hf _ _ _ hchange
      rw [nodeAt?_cons, lookup_concat key key v hnone, if_pos rfl] at hnode
      obtain rfl : v = node := Option.some.inj hnode
      exact h (by rw [hcurrent, hfront]; rfl)
    · exact hf.putsAt.apart.staysSection hb
  intro origin entries entries' hchange
  rw [heq] at hchange
  exact hacts _ _ _ hchange

/-- **A table that only tables are put into** has no key twice, and what is under a key is a
section, if no line puts anything else there. -/
theorem isSection_assembleFrom (h : assembleFrom current root l = some entries)
    (helement : ∀ path, .element path ∈ l → path ≠ [key])
    (hvalue : ∀ v, ([key], v) ∈ told current l → v.IsSection)
    (hroot : (keys root).Nodup)
    (hsection : ∀ node, nodeAt? [key] root = some node → node.IsSection) :
    (keys entries).Nodup ∧ ∀ node, nodeAt? [key] entries = some node → node.IsSection := by
  induction l generalizing current root with
  | nil =>
    obtain rfl := Option.some.inj h
    exact ⟨hroot, hsection⟩
  | cons s l ih =>
    have hrest : ∀ path, .element path ∈ l → path ≠ [key] :=
      fun path hmem => helement path (List.mem_cons_of_mem _ hmem)
    cases s with
    | table path =>
      obtain ⟨front, b, root', rfl, hchange, h⟩ := assembleFrom_table h
      exact ih h hrest hvalue (keepsNodup_openTable front b _ _ _ hchange hroot)
        (staysSection_openTable front b _ _ _ hchange hsection)
    | element path =>
      obtain ⟨front, b, root', rfl, hchange, h⟩ := assembleFrom_element h
      exact ih h hrest hvalue (keepsNodup_openElement front b _ _ _ hchange hroot)
        (staysSection_openElement (helement _ List.mem_cons_self) _ _ _ hchange hsection)
    | entry path v =>
      obtain ⟨root', hpath, hchange, h⟩ := assembleFrom_entry h
      have hgiven : current ++ path = [key] → v.IsSection := fun heq =>
        hvalue v (by rw [told, heq]; exact List.mem_cons_self)
      exact ih h hrest (fun w hw => hvalue w (List.mem_cons_of_mem _ hw))
        ((keepsNodup_adding path v).changeAt false current _ _ _ hchange hroot)
        (staysSection_adding hpath hgiven _ _ _ hchange hsection)

theorem holds_lookup (h : (keys entries).Nodup) (key : String) :
    Holds entries key (entries.lookup key) := fun _ => mem_iff_lookup h

/-- **A section has under a key what the lines say about it,** if they begin it as a table or put a
table in braces there. -/
theorem exists_hasSection_assemble {name : String} (h : assemble l = some entries)
    (helement : ∀ path, .element path ∈ l → path ≠ [name])
    (hvalue : ∀ v, ([name], v) ∈ told [] l → v.IsSection) :
    ∃ inner, HasSection entries name inner ∧ ∀ key, Clear [name, key] [] l →
      Holds inner key (given? [name, key] (told [] l)) := by
  have hnone : ∀ node, nodeAt? [name] [] = some node → node.IsSection := fun node h => nomatch h
  obtain ⟨hnodup, hsection⟩ := isSection_assembleFrom h helement hvalue List.nodup_nil hnone
  have hname := holds_lookup hnodup name
  rcases hlookup : entries.lookup name with _ | node
  · rw [hlookup] at hname
    refine ⟨[], .absent hname, fun key hclear => ?_⟩
    rw [← nodeAt?_assemble h (by simp) hclear, nodeAt?_cons, hlookup]
    exact fun node => by simp
  · rw [hlookup] at hname
    obtain ⟨hnode, hinner⟩ := hsection node (by rw [nodeAt?_cons, hlookup]; rfl)
    refine ⟨node.inner, .present hname hnode, fun key hclear => ?_⟩
    have hkey : nodeAt? [name, key] entries = node.inner.lookup key := by
      rw [nodeAt?_cons, hlookup, Option.bind_some, Node.at?_eq_nodeAt? (by simp), nodeAt?_cons]
      cases node.inner.lookup key <;> rfl
    rw [← nodeAt?_assemble h (by simp) hclear, hkey]
    exact holds_lookup hinner key

/-! ### Tables in braces -/

theorem keepsNodup_addAll (members : List (List String × Node)) :
    KeepsNodup fun _ => addAll members := by
  induction members with
  | nil =>
    intro origin entries entries' h hentries
    obtain rfl := Option.some.inj h
    exact hentries
  | cons m members ih =>
    intro origin entries entries' h hentries
    obtain ⟨entries'', hfirst, h⟩ := Option.bind_eq_some_iff.1 h
    exact ih origin entries'' entries' h
      (keepsNodup_adding m.1 m.2 origin entries entries'' hfirst hentries)

theorem scalar_ne_inline {cs rest : List Char} : scalar cs ≠ some (.inline entries, rest) := by
  unfold scalar
  dsimp only
  intro h
  split at h
  · simp at h
  split at h
  · simp at h
  split at h
  · simp at h
  split at h
  · simp at h
  split at h
  · simp at h
  · obtain ⟨r, -, h⟩ := Option.map_eq_some_iff.1 h
    simp at h

/-- A table in braces has no key twice. -/
theorem Spells.isSection {depth : Nat} {cs : List Char}
    (h : Spells depth (.value (.inline entries)) cs) : (Node.inline entries).IsSection := by
  cases h with
  | scalar h => exact absurd h.2 scalar_ne_inline
  | noMembers h => exact ⟨.inline _, List.nodup_nil⟩
  | inline h hentries =>
    exact ⟨.inline _, keepsNodup_addAll _ .header [] _ hentries List.nodup_nil⟩

theorem SpellsLine.isSection {cs : List Char} (h : SpellsLine l cs)
    (hmem : .entry path (.inline entries) ∈ l) : (Node.inline entries).IsSection := by
  cases h with
  | empty => exact absurd hmem (by simp)
  | statement hfront h hback =>
    obtain rfl := List.mem_singleton.1 hmem
    cases h with
    | entry h =>
      cases h with
      | member hkey hlength hblanks h => exact h.isSection

/-- **Tables in braces are sections.** -/
theorem SpellsLines.isSection {cs : List Char} (h : SpellsLines l cs)
    (hmem : .entry path (.inline entries) ∈ l) : (Node.inline entries).IsSection := by
  induction h with
  | last h => exact h.isSection hmem
  | more h hending hrest ih =>
    rcases List.mem_append.1 hmem with hmem | hmem
    · exact h.isSection hmem
    · exact ih hmem

theorem exists_entry_of_told (h : (path, v) ∈ told current l) : ∃ p, .entry p v ∈ l := by
  induction l generalizing current with
  | nil => exact absurd h (by simp [told])
  | cons s l ih =>
    cases s with
    | table p =>
      obtain ⟨p', hp⟩ := ih h
      exact ⟨p', List.mem_cons_of_mem _ hp⟩
    | element p =>
      obtain ⟨p', hp⟩ := ih h
      exact ⟨p', List.mem_cons_of_mem _ hp⟩
    | entry p w =>
      rw [told] at h
      rcases List.mem_cons.1 h with h | h
      · obtain ⟨-, rfl⟩ := Prod.mk.inj h
        exact ⟨p, List.mem_cons_self⟩
      · obtain ⟨p', hp⟩ := ih h
        exact ⟨p', List.mem_cons_of_mem _ hp⟩

end Toml

end ModuleBuild
