import ModuleBuild.Path
import ModuleBuild.Text.Utf8

/-!
# File trees

A file tree is a directory that holds files, devices, links and further directories by their names.
A location is the list of names on the way from the root, and says which of them is meant. No link
is followed here, so a location is reached in one way only.

What is left out: owners and leave to read or write, so that everything can be read and written;
times; several names of one file; and any change by others while an operation is carried out.

## Main definitions

* `Location`, `Entry` — where something is, and what it is
* `Node`, `FileTree` — something with all that lies below it, and a whole tree
* `FileTree.entryAt?` — what is at a location
* `FileTree.put`, `FileTree.removeBelow` — change what is there
* `FileTree.childrenOf` — what a directory holds, at any depth

## Main results

* `FileTree.entryAt?_put` — a change shows at its own location and nowhere else
-/

namespace ModuleBuild

/-- The names on the way from the root, each with one character for each byte. -/
abbrev Location := List String

/-- What is read and written like a file, but keeps nothing. -/
inductive Device where
  /-- It is empty, and swallows what is written. -/
  | null
  /-- It has no end of zeros, and swallows what is written. -/
  | zero
  /-- It has no end of zeros, and has no space for what is written. -/
  | full
  /-- It is a stream of the program that opens it. -/
  | stream (number : Nat)
  deriving DecidableEq

/-- What there is at a location. -/
inductive Entry where
  /-- A file with its content, and whether it may be run. -/
  | file (content : Bytes) (runnable : Bool)
  /-- A device. -/
  | device (d : Device)
  /-- A link, which stands for another path. -/
  | link (target : Path)
  /-- A directory. -/
  | directory
  deriving DecidableEq

/-- What there is at a location, with all that lies below it. -/
inductive Node where
  /-- A file with its content, and whether it may be run. -/
  | file (content : Bytes) (runnable : Bool)
  /-- A device. -/
  | device (d : Device)
  /-- A link, which stands for another path. -/
  | link (target : Path)
  /-- A directory with what it holds, each name once. -/
  | directory (entries : List (String × Node))
  deriving Inhabited

namespace Node

/-- A node without what lies below it. -/
def entry : Node → Entry
  | file content runnable => .file content runnable
  | device d => .device d
  | link target => .link target
  | directory _ => .directory

/-- Whether nothing lies below a node. -/
def isBare : Node → Bool
  | directory entries => entries.isEmpty
  | _ => true

/-- The node at a location below a directory with some entries. -/
def find? : Location → List (String × Node) → Option Node
  | [], entries => some (.directory entries)
  | name :: rest, entries =>
    match entries.lookup name with
    | some (.directory inner) => find? rest inner
    | some leaf => if rest = [] then some leaf else none
    | none => none

/-- The entries of a directory with a node under a name, in place of what was there. -/
def replace (name : String) (node : Node) (entries : List (String × Node)) :
    List (String × Node) :=
  (name, node) :: entries.filter (fun p => p.1 != name)

/-- The entries of a directory with a node at a location, if there is a directory to hold it. -/
def put (node : Node) : Location → List (String × Node) → List (String × Node)
  | [], entries => entries
  | [name], entries => replace name node entries
  | name :: rest, entries =>
    match entries.lookup name with
    | some (.directory inner) => replace name (.directory (put node rest inner)) entries
    | _ => entries

/-- The entries of a directory without those at and below a location. -/
def remove : Location → List (String × Node) → List (String × Node)
  | [], entries => entries
  | [name], entries => entries.filter (fun p => p.1 != name)
  | name :: rest, entries =>
    match entries.lookup name with
    | some (.directory inner) => replace name (.directory (remove rest inner)) entries
    | _ => entries

mutual

/-- What lies below a node, by the way from there. -/
def inside : Node → List (Location × Entry)
  | directory entries => insideAll entries
  | _ => []

/-- What lies in a directory with some entries, by the way from there. -/
def insideAll : List (String × Node) → List (Location × Entry)
  | [] => []
  | (name, node) :: rest =>
    ([name], node.entry) :: node.inside.map (fun p => (name :: p.1, p.2)) ++ insideAll rest

end

end Node

/-- A directory that is the root of all others. -/
structure FileTree where
  /-- What the root holds, each name once. -/
  entries : List (String × Node)
  /-- How many blocks a file at a location can have, if there is a bound. -/
  room : Location → Option Nat := fun _ => none

namespace FileTree

/-- A tree with nothing but the root. -/
def empty : FileTree := { entries := [] }

/-- What there is at a location, with all that lies below it. -/
def nodeAt? (t : FileTree) (l : Location) : Option Node := Node.find? l t.entries

/-- What there is at a location. -/
def entryAt? (t : FileTree) (l : Location) : Option Entry := (t.nodeAt? l).map Node.entry

/-- The tree with a node at a location, in place of what was there. A node is put only into a
directory that is there. -/
def put (t : FileTree) (l : Location) (node : Node) : FileTree :=
  { t with entries := Node.put node l t.entries }

/-- The tree without a location and all that lies below it. -/
def removeBelow (t : FileTree) (l : Location) : FileTree :=
  { t with entries := Node.remove l t.entries }

/-- What lies below a location, by the way from there. -/
def childrenOf (t : FileTree) (l : Location) : List (Location × Entry) :=
  match t.nodeAt? l with
  | some node => node.inside
  | none => []

/-- The names in a directory. -/
def namesAt (t : FileTree) (l : Location) : List String :=
  match t.nodeAt? l with
  | some (.directory entries) => entries.map Prod.fst
  | _ => []

/-- Whether there is a directory at a location. -/
def isDirectoryAt (t : FileTree) (l : Location) : Bool := t.entryAt? l == some .directory

end FileTree

/-! ### What a change shows -/

namespace Node

variable {entries : List (String × Node)} {node : Node}

theorem lookup_filter_ne {name other : String} (h : other ≠ name) :
    (entries.filter (fun p => p.1 != name)).lookup other = entries.lookup other := by
  induction entries with
  | nil => rfl
  | cons p rest ih =>
    obtain ⟨key, node⟩ := p
    by_cases hk : key = name
    · subst hk
      have : (other == key) = false := by simpa using h
      simp [ih, List.lookup_cons, this]
    · simp [hk, List.lookup_cons, ih]

theorem lookup_replace (name other : String) (node : Node) (entries : List (String × Node)) :
    (replace name node entries).lookup other =
      if other = name then some node else entries.lookup other := by
  by_cases h : other = name
  · simp [replace, h]
  · have : (other == name) = false := by simpa using h
    simp [replace, h, List.lookup_cons, this, lookup_filter_ne h]

@[simp] theorem find?_nil (entries : List (String × Node)) :
    find? [] entries = some (.directory entries) := rfl

/-- Where a node is a directory, what lies below it is found in its entries. -/
theorem find?_cons_directory {name : String} {inner : List (String × Node)} (rest : Location)
    (h : entries.lookup name = some (.directory inner)) :
    find? (name :: rest) entries = find? rest inner := by
  simp [find?, h]

/-- A node with nothing below it shows at no location but its own. -/
theorem find?_replace_of_isBare {name : String} {rest : Location} (h : node.isBare = true) :
    (find? (name :: rest) (replace name node entries)).map entry =
      if rest = [] then some node.entry else none := by
  rcases node with ⟨c, r⟩ | d | p | inner
  case directory =>
    obtain rfl : inner = [] := by simpa [isBare] using h
    cases rest <;> simp [find?, lookup_replace, entry]
  all_goals
    cases rest <;> simp [find?, lookup_replace, entry]

/-- What is found under another name stays the same. -/
theorem find?_replace_of_ne {name other : String} (rest : Location) (h : other ≠ name) :
    find? (other :: rest) (replace name node entries) = find? (other :: rest) entries := by
  simp [find?, lookup_replace, h]

/-- Nothing lies below a leaf. -/
theorem find?_eq_none_of_leaf {name : String} {rest : Location} {leaf : Node}
    (h : entries.lookup name = some leaf) (hd : leaf.entry ≠ .directory) (hr : rest ≠ []) :
    find? (name :: rest) entries = none := by
  rcases leaf with ⟨c, r⟩ | d | p | inner <;> simp_all [find?, entry]

/-- **A change shows at its own location and nowhere else.** The new node has nothing below it, is
put into a directory, and takes the place of no directory. -/
theorem entry_find?_put (hb : node.isBare = true) :
    ∀ {l : Location} {entries : List (String × Node)} (m : Location),
      (find? l entries).map entry ≠ some .directory →
      (find? l.dropLast entries).map entry = some .directory →
      (find? m (put node l entries)).map entry =
        if m = l then some node.entry else (find? m entries).map entry := by
  intro l
  induction l with
  | nil => intro entries m hl; simp [entry] at hl
  | cons name rest ih =>
    intro entries m hl hp
    cases m with
    | nil => simp [entry]
    | cons other mrest =>
    cases rest with
    | nil =>
      by_cases ho : other = name
      · subst ho
        rw [put, find?_replace_of_isBare hb]
        by_cases hm : mrest = []
        · simp [hm]
        · rw [if_neg hm, if_neg (by simpa using hm)]
          rcases hn : entries.lookup other with _ | leaf
          · simp [find?, hn]
          · have hd : leaf.entry ≠ .directory := by
              intro hd
              rcases leaf with ⟨c, r⟩ | d | p | inner <;> simp [entry] at hd
              simp [find?, hn, entry] at hl
            simp [find?_eq_none_of_leaf hn hd hm]
      · rw [put, find?_replace_of_ne _ ho, if_neg (by simp [ho])]
    | cons next rest =>
      rcases hn : entries.lookup name with _ | leaf
      · simp [find?, hn] at hp
      · rcases leaf with ⟨c, r⟩ | d | p | inner
        case directory =>
          have hput : put node (name :: next :: rest) entries =
              replace name (.directory (put node (next :: rest) inner)) entries := by
            rw [put, hn]
            simp
          rw [hput]
          by_cases ho : other = name
          · subst ho
            rw [find?_cons_directory mrest (by rw [lookup_replace, if_pos rfl]),
              find?_cons_directory mrest hn, ih mrest]
            · simp
            · rwa [find?_cons_directory _ hn] at hl
            · rw [List.dropLast_cons_of_ne_nil (by simp), find?_cons_directory _ hn] at hp
              exact hp
          · rw [find?_replace_of_ne _ ho, if_neg (by simp [ho])]
        all_goals
          rw [List.dropLast_cons_of_ne_nil (by simp)] at hp
          cases rest <;> simp [find?, hn, entry] at hp

end Node

namespace FileTree

theorem isDirectoryAt_iff {t : FileTree} {l : Location} :
    t.isDirectoryAt l = true ↔ t.entryAt? l = some .directory := by
  simp [isDirectoryAt]

theorem entryAt?_put {t : FileTree} {l : Location} {node : Node} (hb : node.isBare = true)
    (hl : t.entryAt? l ≠ some .directory) (hp : t.isDirectoryAt l.dropLast = true) (m : Location) :
    (t.put l node).entryAt? m = if m = l then some node.entry else t.entryAt? m :=
  Node.entry_find?_put hb m hl (isDirectoryAt_iff.1 hp)

end FileTree

end ModuleBuild
