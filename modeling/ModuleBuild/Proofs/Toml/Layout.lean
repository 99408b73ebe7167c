import ModuleBuild.Proofs.Toml.Tables

/-!
# Plain documents

The plainest documents have lines with single keys, and then tables, each with a header of one key
and lines with single keys below. If no key is given twice, the lines build a table that is simply
what they say, in order.

## Main definitions

* `Toml.Layout` — the keys and tables of such a document
* `Toml.Layout.Distinct` — no key is given twice

## Main results

* `Toml.Layout.assemble_statements` — what the lines build
-/

namespace ModuleBuild

namespace Toml

/-- The keys and tables of a plain document. -/
structure Layout where
  /-- The keys in front of all tables, with their values. -/
  root : Entries
  /-- The tables. -/
  sections : List (String × Entries)

/-- The lines of single keys. -/
def entryStatements (entries : Entries) : List Statement := entries.map fun e => .entry [e.1] e.2

namespace Layout

/-- What the lines say. -/
def statements (d : Layout) : List Statement :=
  entryStatements d.root ++ d.sections.flatMap fun s => .table [s.1] :: entryStatements s.2

/-- The table of the document. -/
def entries (d : Layout) : Entries := d.root ++ d.sections.map fun s => (s.1, .table .header s.2)

/-- No key is given twice. -/
structure Distinct (d : Layout) : Prop where
  /-- Not in the whole document. -/
  keys : (keys d.entries).Nodup
  /-- Nor in any table. -/
  sections : ∀ s ∈ d.sections, (Toml.keys s.2).Nodup

end Layout

variable {root front inner entries : Entries} {name key : String} {v : Node} {l : List Statement}

@[simp] theorem keys_append (entries entries' : Entries) :
    keys (entries ++ entries') = keys entries ++ keys entries' := List.map_append

@[simp] theorem keys_cons (e : String × Node) (entries : Entries) :
    keys (e :: entries) = e.1 :: keys entries := rfl

@[simp] theorem keys_nil : keys [] = [] := rfl

/-- A value under a new key is added behind the others. -/
theorem addAt_singleton (h : key ∉ keys entries) :
    addAt [key] v .header entries = some (entries ++ [(key, v)]) := by
  have hnone : entries.lookup key = none := lookup_eq_none_iff.2 h
  simp [addAt, addEntry, changeAt, hnone]

/-- What stands last is replaced there. -/
theorem replace_concat {old node : Node} (h : key ∉ keys front) :
    replace key node (front ++ [(key, old)]) = front ++ [(key, node)] := by
  have hfront : front.map (fun e => if e.1 = key then (key, node) else e) = front := by
    refine (List.map_congr_left fun e he => if_neg ?_).trans (List.map_id front)
    rintro rfl
    exact h (List.mem_map_of_mem he)
  rw [replace, List.map_append, hfront]
  simp

/-- A value goes into the table that was begun last. -/
theorem adding_section (hname : name ∉ keys front) (hkey : key ∉ keys inner) :
    changeAt false (adding [key] v) [name] .header (front ++ [(name, .table .header inner)]) =
      some (front ++ [(name, .table .header (inner ++ [(key, v)]))]) := by
  have hlookup : (front ++ [(name, Node.table .header inner)]).lookup name =
      some (.table .header inner) := by
    rw [lookup_concat name name _ (lookup_eq_none_iff.2 hname), if_pos rfl]
  simp [changeAt, hlookup, adding, addAt_singleton hkey, replace_concat hname]

/-- Lines in front of all tables. -/
theorem assembleFrom_root (h : (keys (front ++ entries)).Nodup) :
    assembleFrom [] front (entryStatements entries ++ l) =
      assembleFrom [] (front ++ entries) l := by
  induction entries generalizing front with
  | nil => simp [entryStatements]
  | cons e entries ih =>
    obtain ⟨key, v⟩ := e
    have hkey : key ∉ keys front := by
      intro hmem
      rw [keys_append, List.nodup_append] at h
      exact h.2.2 key hmem key (by simp) rfl
    have hmore : (keys (front ++ [(key, v)] ++ entries)).Nodup := by simpa using h
    rw [entryStatements, List.map_cons, List.cons_append, assembleFrom, changeAt,
      addAt_singleton hkey]
    exact (ih hmore).trans (by simp)

/-- Lines below a header. -/
theorem assembleFrom_section (hname : name ∉ keys front) (h : (keys (inner ++ entries)).Nodup) :
    assembleFrom [name] (front ++ [(name, .table .header inner)]) (entryStatements entries ++ l) =
      assembleFrom [name] (front ++ [(name, .table .header (inner ++ entries))]) l := by
  induction entries generalizing inner with
  | nil => simp [entryStatements]
  | cons e entries ih =>
    obtain ⟨key, v⟩ := e
    have hkey : key ∉ keys inner := by
      intro hmem
      rw [keys_append, List.nodup_append] at h
      exact h.2.2 key hmem key (by simp) rfl
    have hmore : (keys (inner ++ [(key, v)] ++ entries)).Nodup := by simpa using h
    have hadd : changeAt false (fun _ entries => addAt [key] v .header entries) [name] .header
        (front ++ [(name, .table .header inner)]) =
        some (front ++ [(name, .table .header (inner ++ [(key, v)]))]) := adding_section hname hkey
    rw [entryStatements, List.map_cons, List.cons_append, assembleFrom, hadd]
    exact (ih hmore).trans (by simp)

/-- A header and the lines below it, and then other ones. -/
theorem assembleFrom_sections {sections : List (String × Entries)} {current : List String}
    (h : (keys front ++ sections.map Prod.fst).Nodup)
    (hsections : ∀ s ∈ sections, (keys s.2).Nodup) :
    assembleFrom current front
        (sections.flatMap fun s => .table [s.1] :: entryStatements s.2) =
      some (front ++ sections.map fun s => (s.1, .table .header s.2)) := by
  induction sections generalizing front current with
  | nil => simp [assembleFrom]
  | cons s sections ih =>
    obtain ⟨name, entries⟩ := s
    have hname : name ∉ keys front := by
      intro hmem
      exact (List.nodup_append.1 h).2.2 name hmem name (by simp) rfl
    have hopen : openTable [] name .header front =
        some (front ++ [(name, .table .header [])]) := by
      simp [openTable, changeAt, lookup_eq_none_iff.2 hname]
    have hmore : (keys (front ++ [(name, .table .header entries)]) ++
        sections.map Prod.fst).Nodup := by simpa using h
    have hentries : (keys ([] ++ entries)).Nodup := hsections _ List.mem_cons_self
    rw [List.flatMap_cons, List.cons_append, assembleFrom]
    simp only [List.getLast?_singleton, List.dropLast_singleton, Option.bind_eq_bind,
      Option.bind_some, hopen]
    rw [assembleFrom_section hname hentries, List.nil_append,
      ih hmore fun s hs => hsections s (List.mem_cons_of_mem _ hs)]
    simp

/-- **The lines build what they say.** -/
theorem Layout.assemble_statements {d : Layout} (h : d.Distinct) :
    assemble d.statements = some d.entries := by
  have hkeys : (Toml.keys d.root ++ d.sections.map Prod.fst).Nodup := by
    have := h.keys
    rw [Layout.entries, keys_append] at this
    rwa [show Toml.keys (d.sections.map fun s => (s.1, Node.table .header s.2)) =
      d.sections.map Prod.fst by simp [Toml.keys]] at this
  have hroot : (Toml.keys ([] ++ d.root)).Nodup := (List.nodup_append.1 hkeys).1
  rw [assemble, Layout.statements, assembleFrom_root hroot, List.nil_append,
    assembleFrom_sections hkeys h.sections]
  rfl

end Toml

end ModuleBuild
