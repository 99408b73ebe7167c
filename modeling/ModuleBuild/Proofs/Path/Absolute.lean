import ModuleBuild.Proofs.Path.Components

/-!
# Absolute paths, made absolute once more

A path is made absolute by writing its components again below the root, or below the working
directory if it is relative. A slash at its end is kept, and so are two slashes at its very front.
An absolute path that is made absolute once more keeps its components, wherever this is done, so
whatever it is that it names it still names.

## The text of the path

Its text need not stay the same. A relative path has the working directory put in front of it as
that is written, and if there are single dots or repeated slashes in it, they go only when the path
is made absolute for the second time. Paths of working directories are never written like this: they
have single slashes between names. `Path.Tidy` says how an absolute path is written that stays the
same to the letter.

## Main definitions

* `Path.extend` — components written below a path
* `Path.Tidy` — an absolute path as it is written when it is made absolute

## Main results

* `Path.absolute?_eq` — making a path absolute is writing its components again
* `Path.exists_absolute?` — an absolute path that is made absolute keeps its components
* `Path.Tidy.absolute?_eq`, `Path.tidy_iff` — a tidy path stays the same, and no other does
* `Path.tidy_of_absolute?` — seen from a tidy directory, a path that is made absolute is tidy
-/

namespace ModuleBuild

namespace Path

variable {p q base cwd : Path} {c : Component} {cs : List Component} {slash : Bool}

/-! ### Writing components again -/

/-- Components written below a path, one after the other. -/
def extend (base : Path) (cs : List Component) : Path :=
  cs.foldl (fun acc c => acc.join ⟨c.text⟩) base

/-- The path with or without a slash at the end. -/
def ended (slash : Bool) (p : Path) : Path := if slash then p.join ⟨""⟩ else p

/-- Whether there is a slash at the end. -/
def endsInSlash (p : Path) : Bool := p.text.toList.getLast? == some '/'

/-- Where the components of a path are written again. -/
def origin (p cwd : Path) : Path :=
  if p.text.toList.take 2 == ['/', '/'] && p.text.toList.take 3 != ['/', '/', '/'] then ⟨"//"⟩
  else if p.isAbsolute then ⟨"/"⟩
  else cwd

/-- The components that are written again. -/
def steps (p : Path) : List Component := (p.components.filter (· ≠ .current)).filter (· ≠ .root)

/-- **Making a path absolute** is writing its components again. -/
theorem absolute?_eq (h : p.text ≠ "") (cwd : Path) :
    p.absolute? cwd = some (ended p.endsInSlash ((p.origin cwd).extend p.steps)) := by
  have hne : p.text.isEmpty = false := by simpa using h
  rw [absolute?, hne]
  rfl

theorem text_ne_of_absolute? (h : p.absolute? cwd = some q) : p.text ≠ "" := by
  intro hempty
  simp [absolute?, hempty] at h

theorem text_ne_of_isAbsolute (h : p.isAbsolute = true) : p.text ≠ "" := by
  intro hempty
  simp [isAbsolute, hempty] at h

theorem isStep_of_mem_steps (h : c ∈ p.steps) : c.IsStep := by
  obtain ⟨hmem, hroot⟩ := List.mem_filter.1 h
  obtain ⟨hmem, hcurrent⟩ := List.mem_filter.1 hmem
  exact isStep_of_mem_components hmem (by simpa using hroot) (by simpa using hcurrent)

@[simp] theorem extend_nil (base : Path) : base.extend [] = base := rfl

@[simp] theorem extend_cons (base : Path) (c : Component) (cs : List Component) :
    base.extend (c :: cs) = (base.join ⟨c.text⟩).extend cs := rfl

theorem extend_append (base : Path) (cs cs' : List Component) :
    base.extend (cs ++ cs') = (base.extend cs).extend cs' := List.foldl_append

theorem isAbsolute_extend (h : base.isAbsolute = true) : (base.extend cs).isAbsolute = true := by
  induction cs generalizing base with
  | nil => exact h
  | cons c cs ih =>
    rw [extend_cons]
    exact ih (isAbsolute_join h _)

@[simp] theorem ended_false (p : Path) : ended false p = p := rfl

@[simp] theorem ended_true (p : Path) : ended true p = p.join ⟨""⟩ := rfl

/-! ### Components -/

theorem components_extend (hbase : base.isAbsolute = true) (hcs : ∀ c ∈ cs, c.IsStep) :
    (base.extend cs).components = base.components ++ cs := by
  induction cs generalizing base with
  | nil => rw [extend_nil, List.append_nil]
  | cons c cs ih =>
    obtain ⟨hc, hcs⟩ := List.forall_mem_cons.1 hcs
    rw [extend_cons, ih (isAbsolute_join hbase _) hcs, components_join_step hbase hc,
      List.append_assoc]
    rfl

theorem components_ended (h : p.isAbsolute = true) :
    (ended slash p).components = p.components := by
  cases slash with
  | false => rfl
  | true => rw [ended_true, components_join_empty h]

/-- The steps of an absolute path are its components after the root. -/
theorem components_eq_root_cons (h : p.isAbsolute = true) : p.components = .root :: p.steps := by
  have hsteps : ∀ c ∈ p.pieces.tail.filterMap component?, c.IsStep := by
    intro c hmem
    obtain ⟨piece, hpiece, hc⟩ := List.mem_filterMap.1 hmem
    exact isStep_of_component? (List.mem_of_mem_tail hpiece) hc
  have hroot := components_of_isAbsolute h
  have hcurrent : p.components.filter (· ≠ .current) = p.components := by
    rw [hroot, List.filter_cons_of_pos (by decide), List.filter_eq_self.2]
    intro c hc
    simpa using (hsteps c hc).ne_current
  rw [steps, hcurrent, hroot, List.filter_cons_of_neg (by decide), List.filter_eq_self.2]
  intro c hc
  simpa using (hsteps c hc).ne_root

/-- A place where components are written again that is the root. -/
def IsRoot (base : Path) : Prop := base = ⟨"/"⟩ ∨ base = ⟨"//"⟩

theorem IsRoot.isAbsolute (h : base.IsRoot) : base.isAbsolute = true := by
  rcases h with rfl | rfl <;> rfl

theorem IsRoot.components (h : base.IsRoot) : base.components = [.root] := by
  rcases h with rfl | rfl <;> decide

theorem isRoot_origin (h : p.isAbsolute = true) (cwd : Path) : (p.origin cwd).IsRoot := by
  unfold origin
  rw [if_pos h]
  split
  · exact .inr rfl
  · exact .inl rfl

/-- **An absolute path that is made absolute** keeps its components. -/
theorem exists_absolute? (h : p.isAbsolute = true) (cwd : Path) :
    ∃ q, p.absolute? cwd = some q ∧ q.components = p.components := by
  have hroot := isRoot_origin h cwd
  refine ⟨_, absolute?_eq (text_ne_of_isAbsolute h) cwd, ?_⟩
  rw [components_ended (isAbsolute_extend hroot.isAbsolute),
    components_extend hroot.isAbsolute fun _ => isStep_of_mem_steps, hroot.components,
    components_eq_root_cons h]
  rfl

/-- Its text can change, since a directory is put in front of a path as it is written. -/
example : Path.absolute? ⟨"f"⟩ ⟨"/a//b"⟩ = some ⟨"/a//b/f"⟩ ∧
    Path.absolute? ⟨"/a//b/f"⟩ ⟨"/"⟩ = some ⟨"/a/b/f"⟩ := by
  decide +kernel

/-! ### Slashes at the end -/

/-- The path ends in another character than a slash. -/
def EndsInName (p : Path) : Prop := ∃ c ≠ '/', p.text.toList.getLast? = some c

theorem EndsInName.endsInSlash (h : p.EndsInName) : p.endsInSlash = false := by
  obtain ⟨c, hc, hlast⟩ := h
  simp [Path.endsInSlash, hlast, hc]

theorem EndsInName.join_of_relative (h : base.EndsInName) (hp : p.isAbsolute = false) :
    base.join p = ⟨base.text ++ "/" ++ p.text⟩ := by
  obtain ⟨c, hc, hlast⟩ := h
  have hne : base.text.isEmpty = false := by
    rcases hempty : base.text.isEmpty with _ | _
    · rfl
    · rw [String.isEmpty_iff.1 hempty] at hlast
      simp at hlast
  simp [join, hp, hne, hlast, hc]

/-- A path ends as what was joined to it. -/
theorem EndsInName.join (h : p.EndsInName) (base : Path) : (base.join p).EndsInName := by
  obtain ⟨c, hc, hlast⟩ := h
  refine ⟨c, hc, ?_⟩
  unfold Path.join
  split
  · exact hlast
  · split
    · rw [String.toList_append, List.getLast?_append, hlast, Option.some_or]
    · rw [String.toList_append, List.getLast?_append, hlast, Option.some_or]

theorem Component.IsStep.endsInName (h : c.IsStep) : EndsInName ⟨c.text⟩ := by
  refine ⟨c.text.toList.getLast h.toList_text_ne, ?_, List.getLast?_eq_some_getLast _⟩
  intro hslash
  exact h.slash_notMem (hslash ▸ List.getLast_mem _)

theorem EndsInName.extend (h : base.EndsInName) (hcs : ∀ c ∈ cs, c.IsStep) :
    (base.extend cs).EndsInName := by
  induction cs generalizing base with
  | nil => exact h
  | cons c cs ih =>
    obtain ⟨hc, hcs⟩ := List.forall_mem_cons.1 hcs
    rw [extend_cons]
    exact ih (hc.endsInName.join base) hcs

theorem join_empty_of_endsInSlash (h : p.endsInSlash = true) : p.join ⟨""⟩ = p := by
  have hlast : (p.text.toList.getLast? == some '/') = true := h
  simp [join, isAbsolute, hlast]

theorem ended_of_endsInSlash (h : p.endsInSlash = true) : ended slash p = p := by
  cases slash with
  | false => rfl
  | true => rw [ended_true, join_empty_of_endsInSlash h]

theorem endsInSlash_join_empty (h : p.text ≠ "") : (p.join ⟨""⟩).endsInSlash = true := by
  rcases hlast : p.endsInSlash with _ | _
  · have hne : p.text.isEmpty = false := by simpa using h
    rw [endsInSlash] at hlast
    simp [join, isAbsolute, hne, hlast, endsInSlash]
  · rw [join_empty_of_endsInSlash hlast, hlast]

/-- What is put below a path is put there also with a slash in between. -/
theorem join_empty_join (hbase : base.text ≠ "") (hp : p.isAbsolute = false) :
    (base.join ⟨""⟩).join p = base.join p := by
  rcases hlast : base.endsInSlash with _ | _
  · have hne : base.text.isEmpty = false := by simpa using hbase
    rw [endsInSlash] at hlast
    have hempty : base.join ⟨""⟩ = ⟨base.text ++ "/"⟩ := by
      simp [join, isAbsolute, hne, hlast]
    rw [hempty, join, join]
    simp [hp, hne, hlast]
  · rw [join_empty_of_endsInSlash hlast]

/-! ### Texts below the root -/

theorem text_prefix_join (base : Path) (hp : p.isAbsolute = false) :
    base.text.toList <+: (base.join p).text.toList := by
  unfold join
  rw [hp, if_neg Bool.false_ne_true]
  split
  · rw [String.toList_append]
    exact List.prefix_append _ _
  · rw [String.toList_append, String.toList_append, List.append_assoc]
    exact List.prefix_append _ _

theorem text_prefix_extend (hcs : ∀ c ∈ cs, c.IsStep) :
    base.text.toList <+: (base.extend cs).text.toList := by
  induction cs generalizing base with
  | nil => exact List.prefix_rfl
  | cons c cs ih =>
    obtain ⟨hc, hcs⟩ := List.forall_mem_cons.1 hcs
    rw [extend_cons]
    exact (text_prefix_join base hc.isAbsolute_text).trans (ih hcs)

theorem text_prefix_ended (slash : Bool) (p : Path) :
    p.text.toList <+: (ended slash p).text.toList := by
  cases slash with
  | false => exact List.prefix_rfl
  | true =>
    rw [ended_true]
    exact text_prefix_join p (p := ⟨""⟩) rfl

theorem IsRoot.endsInSlash (h : base.IsRoot) : base.endsInSlash = true := by
  rcases h with rfl | rfl <;> decide

theorem IsRoot.text_join (h : base.IsRoot) (hp : p.isAbsolute = false) :
    (base.join p).text = base.text ++ p.text := by
  have hlast : (base.text.toList.getLast? == some '/') = true := h.endsInSlash
  simp [join, hp, hlast]

/-- What is written below the root does not begin with one more slash. -/
theorem exists_text_eq (hbase : base.IsRoot) (hcs : ∀ c ∈ cs, c.IsStep) (slash : Bool) :
    ∃ rest, (ended slash (base.extend cs)).text.toList = base.text.toList ++ rest ∧
      rest.head? ≠ some '/' := by
  cases cs with
  | nil =>
    rw [extend_nil, ended_of_endsInSlash hbase.endsInSlash]
    exact ⟨[], (List.append_nil _).symm, nofun⟩
  | cons c cs =>
    obtain ⟨hc, hcs⟩ := List.forall_mem_cons.1 hcs
    have hprefix := (text_prefix_extend hcs).trans
      (text_prefix_ended slash ((base.join ⟨c.text⟩).extend cs))
    rw [hbase.text_join hc.isAbsolute_text, String.toList_append] at hprefix
    obtain ⟨rest, hrest⟩ := hprefix
    refine ⟨c.text.toList ++ rest, ?_, ?_⟩
    · rw [extend_cons, ← hrest, List.append_assoc]
    · -- the first step is not empty, and there is no slash in it
      obtain ⟨first, after, htext⟩ := List.exists_cons_of_ne_nil hc.toList_text_ne
      rw [htext, List.cons_append, List.head?_cons]
      rintro ⟨⟩
      exact hc.slash_notMem (htext ▸ List.mem_cons_self)

/-- So it is written again where it was written. -/
theorem origin_eq {rest : List Char} (hbase : base.IsRoot)
    (htext : p.text.toList = base.text.toList ++ rest) (hrest : rest.head? ≠ some '/')
    (cwd : Path) : p.origin cwd = base := by
  rcases hbase with rfl | rfl
  · cases rest with
    | nil => simp [origin, isAbsolute, htext]
    | cons c rest =>
      have hc : c ≠ '/' := by simpa using hrest
      simp [origin, isAbsolute, htext, hc]
  · cases rest with
    | nil => simp [origin, htext]
    | cons c rest =>
      have hc : c ≠ '/' := by simpa using hrest
      simp [origin, htext, hc]

/-! ### Tidy paths -/

/-- An absolute path as it is written when it is made absolute: steps below the root, with single
slashes between them and perhaps one at the end. -/
inductive Tidy : Path → Prop where
  /-- The root may be written with two slashes. -/
  | intro {base : Path} {cs : List Component} (hbase : base.IsRoot) (hcs : ∀ c ∈ cs, c.IsStep)
    (slash : Bool) : Tidy (ended slash (base.extend cs))

theorem IsRoot.isAbsolute_ended (h : base.IsRoot) :
    (ended slash (base.extend cs)).isAbsolute = true := by
  cases slash with
  | false => exact isAbsolute_extend h.isAbsolute
  | true =>
    rw [ended_true]
    exact isAbsolute_join (isAbsolute_extend h.isAbsolute) _

theorem IsRoot.steps_ended (h : base.IsRoot) (hcs : ∀ c ∈ cs, c.IsStep) :
    (ended slash (base.extend cs)).steps = cs := by
  have hcomponents := components_eq_root_cons (p := ended slash (base.extend cs)) h.isAbsolute_ended
  rw [components_ended (isAbsolute_extend h.isAbsolute), components_extend h.isAbsolute hcs,
    h.components] at hcomponents
  exact (List.cons.inj hcomponents).2.symm

/-- A slash at the end is one that was put there, unless it is the root. -/
theorem IsRoot.ended_endsInSlash (h : base.IsRoot) (hcs : ∀ c ∈ cs, c.IsStep) :
    ended (ended slash (base.extend cs)).endsInSlash (base.extend cs) =
      ended slash (base.extend cs) := by
  cases cs with
  | nil =>
    rw [extend_nil, ended_of_endsInSlash h.endsInSlash, ended_of_endsInSlash h.endsInSlash]
  | cons c cs =>
    obtain ⟨hc, hcs⟩ := List.forall_mem_cons.1 hcs
    have hname : (base.extend (c :: cs)).EndsInName := by
      rw [extend_cons]
      exact (hc.endsInName.join base).extend hcs
    cases slash with
    | false => rw [ended_false, hname.endsInSlash, ended_false]
    | true =>
      have hne : (base.extend (c :: cs)).text ≠ "" :=
        text_ne_of_isAbsolute (isAbsolute_extend h.isAbsolute)
      rw [ended_true, endsInSlash_join_empty hne, ended_true]

/-- **A tidy path stays the same** when it is made absolute. -/
theorem Tidy.absolute?_eq (h : p.Tidy) (cwd : Path) : p.absolute? cwd = some p := by
  cases h with
  | intro hbase hcs slash =>
    obtain ⟨rest, htext, hrest⟩ := exists_text_eq hbase hcs slash
    rw [Path.absolute?_eq (text_ne_of_isAbsolute hbase.isAbsolute_ended), hbase.steps_ended hcs,
      origin_eq hbase htext hrest, hbase.ended_endsInSlash hcs]

theorem ended_ended (slash slash' : Bool) (h : p.text ≠ "") :
    ended slash (ended slash' p) = ended (slash || slash') p := by
  cases slash with
  | false => rfl
  | true =>
    cases slash' with
    | false => rfl
    | true => rw [ended_true, ended_true, Bool.or_true, ended_true, join_empty_join h rfl]

theorem extend_ended (slash : Bool) (h : p.text ≠ "") (hc : c.IsStep) :
    (ended slash p).extend (c :: cs) = p.extend (c :: cs) := by
  cases slash with
  | false => rfl
  | true => rw [ended_true, extend_cons, extend_cons, join_empty_join h hc.isAbsolute_text]

theorem origin_of_relative (h : p.isAbsolute = false) (cwd : Path) : p.origin cwd = cwd := by
  have hhead : p.text.toList.head? ≠ some '/' := by simpa [isAbsolute] using h
  have htake : (p.text.toList.take 2 == ['/', '/']) = false := by
    rcases htext : p.text.toList with _ | ⟨c, rest⟩
    · rfl
    · have hc : c ≠ '/' := by simpa [htext] using hhead
      simp [hc]
  simp [origin, htake, h]

/-- **A path that is made absolute is tidy**, seen from a tidy directory. -/
theorem tidy_of_absolute? (hcwd : cwd.Tidy) (h : p.absolute? cwd = some q) : q.Tidy := by
  obtain rfl := Option.some.inj ((absolute?_eq (text_ne_of_absolute? h) cwd).symm.trans h)
  have hsteps : ∀ c ∈ p.steps, c.IsStep := fun _ => isStep_of_mem_steps
  rcases habs : p.isAbsolute with _ | _
  case true => exact .intro (isRoot_origin habs cwd) hsteps _
  rw [origin_of_relative habs]
  cases hcwd with
  | @intro base cs hbase hcs slash =>
    have hne : (base.extend cs).text ≠ "" :=
      text_ne_of_isAbsolute (isAbsolute_extend hbase.isAbsolute)
    rcases hsplit : p.steps with _ | ⟨c, rest⟩
    · rw [extend_nil, ended_ended _ _ hne]
      exact .intro hbase hcs _
    · rw [hsplit] at hsteps
      rw [extend_ended _ hne (hsteps c List.mem_cons_self), ← extend_append]
      refine .intro hbase (fun c' hmem => ?_) _
      rcases List.mem_append.1 hmem with hmem | hmem
      · exact hcs c' hmem
      · exact hsteps c' hmem

/-- A path is tidy exactly if it stays the same wherever it is made absolute. -/
theorem tidy_iff : p.Tidy ↔ ∀ cwd, p.absolute? cwd = some p := by
  refine ⟨Tidy.absolute?_eq, fun h => ?_⟩
  have hroot : Tidy (ended false (Path.extend ⟨"/"⟩ [])) :=
    .intro (.inl rfl) (fun _ hmem => absurd hmem List.not_mem_nil) false
  exact tidy_of_absolute? hroot (h ⟨"/"⟩)

end Path

end ModuleBuild
