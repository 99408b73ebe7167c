import ModuleBuild.Path
import ModuleBuild.Proofs.Text.Lines

/-!
# Components of paths

The components of a path are read off the texts between its slashes, but for the root and a single
dot at the front. Each of the others is two dots or a name. These are the ones that can be written
below a path, and then they are its last components.

## Main definitions

* `Path.Component.IsStep` — a component that can stand between slashes

## Main results

* `Path.mem_components` — where the components of a path come from
* `Path.components_join`, `Path.components_join_step` — the components of a path below another one
-/

namespace ModuleBuild

namespace Path

variable {p base : Path} {name : String} {c : Component} {piece : List Char}

/-! ### Texts between slashes -/

/-- A text that ends in no dot is a name. -/
theorem component?_of_getLast? {c : Char} (hlast : name.toList.getLast? = some c) (hc : c ≠ '.') :
    component? name.toList = some (.name name) := by
  have hne : name.toList ≠ [] := fun h => by simp [h] at hlast
  have hdot : name.toList ≠ ['.'] := fun h => hc (by simpa [h] using hlast.symm)
  have hdots : name.toList ≠ ['.', '.'] := fun h => hc (by simpa [h] using hlast.symm)
  simp [component?, isTrivial, hne, hdot, hdots]

/-- What a text between slashes stands for is neither the root nor a dot at the front. -/
theorem component?_eq_some (h : component? piece = some c) : c = .parent ∨ ∃ s, c = .name s := by
  unfold component? at h
  split at h
  · simp at h
  split at h
  · exact .inl (Option.some.inj h).symm
  · exact .inr ⟨_, (Option.some.inj h).symm⟩

/-- It is written as that text. -/
theorem toList_text_of_component? (h : component? piece = some c) : c.text.toList = piece := by
  unfold component? at h
  split at h
  · simp at h
  split at h
  · rename_i hdots
    obtain rfl := Option.some.inj h
    exact (eq_of_beq hdots).symm
  · obtain rfl := Option.some.inj h
    exact String.toList_ofList

/-- **Where components come from.** -/
theorem mem_components (h : c ∈ p.components) :
    c = .root ∨ c = .current ∨ ∃ piece ∈ p.pieces, component? piece = some c := by
  unfold components at h
  split at h
  · simp at h
  rename_i first rest hpieces
  have htail : c ∈ rest.filterMap component? → ∃ piece ∈ p.pieces, component? piece = some c := by
    intro hmem
    obtain ⟨piece, hin, hpiece⟩ := List.mem_filterMap.1 hmem
    exact ⟨piece, hpieces ▸ List.mem_cons_of_mem _ hin, hpiece⟩
  dsimp only at h
  split at h
  · rcases List.mem_cons.1 h with hroot | hmem
    · exact .inl hroot
    · exact .inr (.inr (htail hmem))
  split at h
  · rcases List.mem_cons.1 h with hcurrent | hmem
    · exact .inr (.inl hcurrent)
    · exact .inr (.inr (htail hmem))
  · rcases List.mem_append.1 h with hfirst | hmem
    · exact .inr (.inr ⟨first, hpieces ▸ List.mem_cons_self, by simpa using hfirst⟩)
    · exact .inr (.inr (htail hmem))

/-! ### Steps -/

/-- A component that can stand between slashes: two dots or a name. -/
structure Component.IsStep (c : Component) : Prop where
  /-- There is no slash in it. -/
  slash_notMem : '/' ∉ c.text.toList
  /-- It is what its own text stands for. -/
  component?_text : component? c.text.toList = some c

theorem isStep_of_component? (hmem : piece ∈ p.pieces) (h : component? piece = some c) :
    c.IsStep := by
  have htext := toList_text_of_component? h
  exact ⟨fun hslash => (mem_of_mem_splitOn hmem (htext ▸ hslash)).1 rfl, htext ▸ h⟩

theorem isStep_of_mem_components (h : c ∈ p.components) (hroot : c ≠ .root)
    (hcurrent : c ≠ .current) : c.IsStep := by
  obtain ⟨piece, hmem, hpiece⟩ := ((mem_components h).resolve_left hroot).resolve_left hcurrent
  exact isStep_of_component? hmem hpiece

namespace Component.IsStep

theorem ne_root (h : c.IsStep) : c ≠ .root := by
  rintro rfl
  exact absurd h.slash_notMem (by decide)

theorem ne_current (h : c.IsStep) : c ≠ .current := by
  rintro rfl
  exact absurd h.component?_text (by decide)

theorem toList_text_ne (h : c.IsStep) : c.text.toList ≠ [] := by
  intro hnil
  have htext := h.component?_text
  rw [hnil] at htext
  exact absurd htext (by simp [component?, isTrivial])

theorem isAbsolute_text (h : c.IsStep) : Path.isAbsolute ⟨c.text⟩ = false := by
  rcases habs : Path.isAbsolute ⟨c.text⟩ with _ | _
  · rfl
  · exact absurd (List.mem_of_mem_head? (by simpa [isAbsolute] using habs)) h.slash_notMem

theorem pieces_text (h : c.IsStep) : Path.pieces ⟨c.text⟩ = [c.text.toList] :=
  List.splitOn_eq_singleton h.slash_notMem

end Component.IsStep

/-! ### Components below a path -/

/-- The components of an absolute path come after the root. -/
theorem components_of_isAbsolute (h : p.isAbsolute = true) :
    p.components = .root :: p.pieces.tail.filterMap component? := by
  unfold components
  split
  · rename_i hpieces
    exact absurd hpieces (List.splitOn_ne_nil _ _)
  · rename_i hpieces
    simp [h, hpieces]

/-- A path with one more name has one more component. -/
theorem components_below (base : Path) (hbase : base.text ≠ "") (hslash : '/' ∉ name.toList)
    (hname : component? name.toList = some (.name name)) :
    Path.components ⟨base.text ++ ("/" ++ name)⟩ = base.components ++ [.name name] := by
  unfold components
  rw [pieces_below base hslash, isAbsolute_below hbase]
  rcases hfirst : base.pieces with _ | ⟨first, rest⟩
  · exact absurd hfirst (List.splitOn_ne_nil _ _)
  · simp only [List.cons_append, List.filterMap_append, List.filterMap_cons_some hname,
      List.filterMap_nil]
    split
    · rfl
    · split
      · rfl
      · rw [List.append_assoc]

/-- **The components of a path below an absolute one** are those of the one and then those that the
texts of the other stand for. -/
theorem components_join (hbase : base.isAbsolute = true) (hp : p.isAbsolute = false) :
    (base.join p).components = base.components ++ p.pieces.filterMap component? := by
  obtain ⟨front, hfront, hpieces⟩ := exists_pieces_join base
  have hne : front ≠ [] := by
    -- an absolute path has a slash, so two texts at least
    have hhead : base.text.toList.head? = some '/' := by simpa [isAbsolute] using hbase
    obtain ⟨rest, hrest⟩ := List.head?_eq_some_iff.1 hhead
    have hbase : base.pieces = [] :: rest.splitOn '/' := by
      rw [pieces, hrest]
      exact List.splitOn_append_cons_self [] rest
    rintro rfl
    rcases hfront with hnil | hnil
    · exact List.splitOn_ne_nil _ _ hnil
    · rw [hbase] at hnil
      exact List.splitOn_ne_nil _ _ (List.cons.inj hnil).2
  obtain ⟨first, rest, rfl⟩ := List.exists_cons_of_ne_nil hne
  rw [components_of_isAbsolute (isAbsolute_join hbase p), components_of_isAbsolute hbase,
    hpieces p hp, List.cons_append, List.tail_cons, List.filterMap_append]
  rcases hfront with hfront | hfront
  · rw [hfront]
    rfl
  · -- the slash at the end of the base stands for nothing
    have hempty : component? [] = none := rfl
    have htail : (first :: rest ++ [[]]).tail = rest ++ [[]] := rfl
    rw [hfront, htail, List.filterMap_append, List.filterMap_cons_none hempty,
      List.filterMap_nil, List.append_nil]
    rfl

/-- A step below a path is one component more. -/
theorem components_join_step (hbase : base.isAbsolute = true) (hc : c.IsStep) :
    (base.join ⟨c.text⟩).components = base.components ++ [c] := by
  rw [components_join hbase hc.isAbsolute_text, hc.pieces_text,
    List.filterMap_cons_some hc.component?_text, List.filterMap_nil]

/-- A slash at the end is no component. -/
theorem components_join_empty (hbase : base.isAbsolute = true) :
    (base.join ⟨""⟩).components = base.components := by
  have hempty : Path.pieces ⟨""⟩ = [[]] := rfl
  rw [components_join hbase rfl, hempty, List.filterMap_cons_none rfl, List.filterMap_nil,
    List.append_nil]

end Path

end ModuleBuild
