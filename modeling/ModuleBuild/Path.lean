import ModuleBuild.Text.Octets

/-!
# Paths

A path names a place in a file tree. It is a sequence of bytes, which need not spell characters, and
is kept as a text with one character for each byte. Nothing here looks at the tree: the module takes
a path apart at its slashes, joins paths, and makes a path absolute, all on the text alone. In
particular `..` stays where it is, since the place that it leads to hangs on the tree.

## Main definitions

* `Path` — the bytes of a path, as a text
* `Path.ofText`, `Path.text?` — the path that is spelled by a text of characters, and back
* `Path.shown` — the path as it is shown in messages
* `Path.components` — its parts; single dots inside and repeated slashes are none
* `Path.join` — one path below another; an absolute path stays itself
* `Path.fileName?`, `Path.fileStem?` — the last name, and that name without its extension
* `Path.absolute?` — the path seen from the root
* `Path.relativeTo?` — the path seen from a directory that it lies in
* `Path.parent?` — the path without its last component

## Main results

* `Path.join_of_isAbsolute` — an absolute path joined to anything is itself
* `Path.exists_pieces_join` — the texts between the slashes of a path below another
* `Path.pieces_below` — the texts between the slashes of a path with one more name
* `Path.isAbsolute_of_absolute?` — the path seen from the root begins there
-/

namespace ModuleBuild

/-- A place in a file tree, as it is written. -/
structure Path where
  /-- The text of the path, with one character for each byte. -/
  text : String
  deriving DecidableEq, Inhabited

namespace Path

/-- The path that a text of characters spells. -/
def ofText (s : String) : Path := ⟨Octets.ofText s⟩

/-- The text of characters that spells a path, if there is one. -/
def text? (p : Path) : Option String := Octets.text? p.text

/-- The path as it is shown. Bytes that spell no character are replaced, so different paths may be
shown alike. -/
def shown (p : Path) : String := Octets.toText p.text

/-- One part of a path. -/
inductive Component where
  /-- The root, written as a slash at the front. -/
  | root
  /-- A single dot at the front. -/
  | current
  /-- Two dots. -/
  | parent
  /-- Any other name. -/
  | name (s : String)
  deriving DecidableEq

/-- A component on its own. -/
def Component.text : Component → String
  | root => "/"
  | current => "."
  | parent => ".."
  | name s => s

/-- The texts between the slashes. -/
def pieces (p : Path) : List (List Char) := p.text.toList.splitOn '/'

/-- Whether the path begins at the root. -/
def isAbsolute (p : Path) : Bool := p.text.toList.head? == some '/'

/-- Whether a text between slashes stands for nothing. -/
def isTrivial (piece : List Char) : Bool := piece == [] || piece == ['.']

/-- The component that a text between slashes stands for, if any. -/
def component? (piece : List Char) : Option Component :=
  if isTrivial piece then none
  else if piece == ['.', '.'] then some .parent
  else some (.name (String.ofList piece))

/-- The parts of a path. -/
def components (p : Path) : List Component :=
  match p.pieces with
  | [] => []
  | first :: rest =>
    let tail := rest.filterMap component?
    if p.isAbsolute then .root :: tail
    else if first == ['.'] then .current :: tail
    else (component? first).toList ++ tail

/-- The last name of a path, unless it ends in the root or in dots. -/
def fileName? (p : Path) : Option String :=
  match p.components.getLast? with
  | some (.name s) => some s
  | _ => none

/-- A name without its last extension. A dot at the front begins no extension. -/
def stem (name : String) : String :=
  let cs := name.toList.reverse
  match cs.dropWhile (· ≠ '.') with
  | [] => name
  | [_] => name
  | _ :: before => String.ofList before.reverse

/-- The last name of a path without its extension. -/
def fileStem? (p : Path) : Option String := p.fileName?.map stem

/-- A path below another. An absolute path stays itself, and a slash is put between the two where
the first does not end in one. -/
def join (base p : Path) : Path :=
  if p.isAbsolute then p
  else if base.text.isEmpty || base.text.toList.getLast? == some '/' then ⟨base.text ++ p.text⟩
  else ⟨base.text ++ "/" ++ p.text⟩

/-- The path seen from the root, the place of a relative path being given. Single dots and repeated
slashes go, two slashes at the very front and a slash at the end stay; the empty path has no
place. -/
def absolute? (p cwd : Path) : Option Path :=
  if p.text.isEmpty then none
  else
    let parts := p.components.filter (· ≠ .current)
    let twoSlashes := p.text.toList.take 2 == ['/', '/'] && p.text.toList.take 3 != ['/', '/', '/']
    let base : Path :=
      if twoSlashes then ⟨"//"⟩ else if p.isAbsolute then ⟨"/"⟩ else cwd
    let full := (parts.filter (· ≠ .root)).foldl (fun acc c => acc.join ⟨c.text⟩) base
    some (if p.text.toList.getLast? == some '/' then full.join ⟨""⟩ else full)

/-- Texts put between slashes again. -/
def ofPieces (pieces : List (List Char)) : Path := ⟨String.ofList (['/'].intercalate pieces)⟩

/-- Texts between slashes without those at the end that stand for nothing. -/
def dropTrivialEnd (pieces : List (List Char)) : List (List Char) :=
  (pieces.reverse.dropWhile isTrivial).reverse

/-- Texts between slashes after the first `n` that stand for a component. -/
def dropComponents : Nat → List (List Char) → List (List Char)
  | 0, pieces => pieces
  | _ + 1, [] => []
  | n + 1, piece :: rest =>
    if isTrivial piece then dropComponents (n + 1) rest else dropComponents n rest

/-- The path seen from an absolute directory, if its first components are those of the
directory. -/
def relativeTo? (p base : Path) : Option Path :=
  let parts := base.components
  if base.isAbsolute && p.components.take parts.length == parts then
    let rest := dropComponents (parts.length - 1) p.pieces
    some (ofPieces (dropTrivialEnd (rest.dropWhile isTrivial)))
  else none

/-- The path without its last component; the root and the empty path have none to lose. -/
def parent? (p : Path) : Option Path :=
  match p.components.getLast? with
  | none => none
  | some .root => none
  | some .current => some ⟨""⟩
  | some _ =>
    let rest := dropTrivialEnd (dropTrivialEnd p.pieces).dropLast
    match rest, p.isAbsolute, p.pieces.head? == some ['.'] with
    | [], true, _ => some ⟨"/"⟩
    | [], false, true => if p.components.length == 1 then some ⟨""⟩ else some ⟨"."⟩
    | _, _, _ => some (ofPieces rest)

/-! ### Texts of characters -/

@[simp] theorem shown_ofText (s : String) : (ofText s).shown = s := Octets.toText_ofText s

theorem text?_eq_some {p : Path} {s : String} : p.text? = some s ↔ p = ofText s := by
  rw [text?, Octets.text?_eq_some]
  exact ⟨congrArg mk, congrArg text⟩

/-! ### Joining -/

theorem join_of_isAbsolute (base : Path) {p : Path} (h : p.isAbsolute = true) :
    base.join p = p := by
  simp [join, h]

@[simp] theorem join_empty (p : Path) : Path.join ⟨""⟩ p = p := by
  unfold join
  split
  · rfl
  · simp

/-- What is not empty stays so below another path. -/
theorem text_join_ne (base : Path) {p : Path} (h : p.text ≠ "") : (base.join p).text ≠ "" := by
  unfold join
  split
  · exact h
  · split
    · simp [h]
    · simp [h]

/-- What lies below an absolute path is absolute. -/
theorem isAbsolute_join {base : Path} (h : base.isAbsolute = true) (p : Path) :
    (base.join p).isAbsolute = true := by
  unfold join
  split
  · assumption
  · obtain ⟨text⟩ := base
    have hfirst : ∀ s : String, Path.isAbsolute ⟨text ++ s⟩ = true := by
      intro s
      simp only [isAbsolute, String.toList_append, beq_iff_eq] at h ⊢
      simp [List.head?_append, h]
    split
    · exact hfirst p.text
    · rw [String.append_assoc]
      exact hfirst ("/" ++ p.text)

/-- The texts between the slashes of a path below another are those of the one and then those of the
other. A slash at the end of the first counts once. -/
theorem exists_pieces_join (base : Path) :
    ∃ front, (base.pieces = front ∨ base.pieces = front ++ [[]]) ∧
      ∀ p : Path, p.isAbsolute = false → (base.join p).pieces = front ++ p.pieces := by
  obtain ⟨text⟩ := base
  rcases htext : text.toList.getLast? with _ | c
  · obtain rfl : text = "" := by simpa using htext
    exact ⟨[], .inr rfl, fun p _ => by rw [join_empty, List.nil_append]⟩
  obtain ⟨outer, houter⟩ := List.getLast?_eq_some_iff.1 htext
  have hne : text.isEmpty = false := by
    rcases hempty : text.isEmpty with _ | _
    · rfl
    · obtain rfl : text = "" := by simpa using hempty
      simp at htext
  by_cases hc : c = '/'
  · subst hc
    refine ⟨outer.splitOn '/', .inr ?_, fun p hp => ?_⟩
    · rw [pieces, houter, List.splitOn_append_cons_self]
      rfl
    · rw [join, if_neg (by simp [hp]), if_pos (by simp [htext]), pieces]
      simp only [String.toList_append, houter, List.append_assoc, List.singleton_append]
      exact List.splitOn_append_cons_self outer _
  · refine ⟨pieces ⟨text⟩, .inl rfl, fun p hp => ?_⟩
    rw [join, if_neg (by simp [hp]), if_neg (by simp [htext, hne, hc]), pieces]
    simp only [String.toList_append, List.append_assoc]
    exact List.splitOn_append_cons_self text.toList _

/-- A path with one more name has one more text between its slashes. -/
theorem pieces_below (base : Path) {name : String} (hslash : '/' ∉ name.toList) :
    pieces ⟨base.text ++ ("/" ++ name)⟩ = base.pieces ++ [name.toList] := by
  have htext : (base.text ++ ("/" ++ name)).toList = base.text.toList ++ '/' :: name.toList := by
    simp
  rw [pieces, htext, List.splitOn_append_cons_self, List.splitOn_eq_singleton hslash]
  rfl

/-- It begins where the path without that name does. -/
theorem isAbsolute_below {base : Path} (h : base.text ≠ "") (name : String) :
    isAbsolute ⟨base.text ++ ("/" ++ name)⟩ = base.isAbsolute := by
  obtain ⟨c, rest, hcons⟩ :=
    List.exists_cons_of_ne_nil (show base.text.toList ≠ [] by simpa using h)
  simp [isAbsolute, hcons]

/-- The path seen from the root begins there. -/
theorem isAbsolute_of_absolute? {p cwd q : Path} (hc : cwd.isAbsolute = true)
    (h : p.absolute? cwd = some q) : q.isAbsolute = true := by
  have hfold : ∀ (parts : List Component) (base : Path), base.isAbsolute = true →
      (parts.foldl (fun acc c => acc.join ⟨c.text⟩) base).isAbsolute = true := by
    intro parts
    induction parts with
    | nil => intro base hb; exact hb
    | cons c parts ih =>
      intro base hb
      exact ih (base.join ⟨c.text⟩) (isAbsolute_join hb _)
  unfold absolute? at h
  split at h
  · simp at h
  · obtain rfl := Option.some.inj h
    have hbase : Path.isAbsolute
        (if (p.text.toList.take 2 == ['/', '/'] && p.text.toList.take 3 != ['/', '/', '/']) = true
          then ⟨"//"⟩ else if p.isAbsolute = true then ⟨"/"⟩ else cwd) = true := by
      split
      · decide
      · split
        · decide
        · exact hc
    split
    · exact isAbsolute_join (hfold _ _ hbase) _
    · exact hfold _ _ hbase

end Path

end ModuleBuild
