import ModuleBuild.Toml.Scalar

/-!
# TOML documents

A document is read line by line. A header chooses the table that the following keys go into; a key
with its value adds to that table. A document that repeats a key or adds to a finished table is
refused.

## Main definitions

* `Toml.value` — a value of any kind
* `Toml.Statement`, `Toml.statements` — what the lines of a text say
* `Toml.assemble` — the table that statements build
* `Toml.parse` — the table that a text spells
-/

namespace ModuleBuild

namespace Toml

/-! ### Lists and tables in braces -/

/-- The rest of a list after its bracket or a comma; `items` are the items so far, the last one
first. A comma may stand behind the last item. -/
def listItems (item : List Char → Option (Node × List Char)) :
    Nat → List Node → List Char → Option (List Node × List Char)
  | 0, _, _ => none
  | fuel + 1, items, cs => do
    match ← skipTrivia false cs with
    | ']' :: rest => return (items.reverse, rest)
    | cs =>
      let (v, rest) ← item cs
      match ← skipTrivia false rest with
      | ',' :: rest => listItems item fuel (v :: items) rest
      | ']' :: rest => return ((v :: items).reverse, rest)
      | _ => none

/-- A key with its value. -/
def keyValue (item : List Char → Option (Node × List Char)) (cs : List Char) :
    Option ((List String × Node) × List Char) := do
  match ← key cs with
  | (path, '=' :: rest) =>
    let (v, rest) ← item (skipBlanks rest)
    return ((path, v), rest)
  | _ => none

/-- Adds a value under a key with its parts. -/
def addAt (path : List String) (v : Node) (origin : Origin) (entries : Entries) : Option Entries :=
  match path.getLast? with
  | some key => addEntry path.dropLast key v origin entries
  | none => none

/-- The rest of a table in braces, with one key at least. No comma may stand behind the last
value. -/
def inlineEntries (item : List Char → Option (Node × List Char)) :
    Nat → Entries → List Char → Option (Entries × List Char)
  | 0, _, _ => none
  | fuel + 1, entries, cs => do
    let ((path, v), rest) ← keyValue item cs
    let entries ← addAt path v .header entries
    match skipBlanks rest with
    | ',' :: rest => inlineEntries item fuel entries rest
    | '\x7d' :: rest => return (entries, rest)
    | _ => none

/-- A value of at most the given depth. -/
def valueTo : Nat → List Char → Option (Node × List Char)
  | depth, cs =>
    match cs, depth with
    | '[' :: rest, depth + 1 => do
      let (items, rest) ← listItems (valueTo depth) cs.length [] rest
      return (.list items, rest)
    | '\x7b' :: rest, depth + 1 =>
      match skipBlanks rest with
      | '\x7d' :: rest => some (.inline [], rest)
      | rest => do
        let (entries, rest) ← inlineEntries (valueTo depth) cs.length [] rest
        return (.inline entries, rest)
    | c :: _, _ =>
      if c = '"' ∨ c = '\x27' then (text cs).map fun (s, rest) => (.text s, rest)
      else scalar cs
    | [], _ => none

/-- A value. -/
def value (cs : List Char) : Option (Node × List Char) := valueTo (depthLimit - 1) cs

/-! ### Lines -/

/-- What a line says. -/
inductive Statement where
  /-- The following keys go into this table. -/
  | table (path : List String)
  /-- The following keys go into one more table of this list. -/
  | element (path : List String)
  /-- A key has a value. -/
  | entry (path : List String) (value : Node)

/-- A statement at the front, and what follows it on its line. -/
def statement (cs : List Char) : Option (Statement × List Char) := do
  match cs with
  | '[' :: '[' :: rest =>
    match ← key rest with
    | (path, ']' :: ']' :: rest) => return (.element path, rest)
    | _ => none
  | '[' :: rest =>
    match ← key rest with
    | (path, ']' :: rest) => return (.table path, rest)
    | _ => none
  | _ =>
    let ((path, v), rest) ← keyValue value cs
    return (.entry path v, rest)

/-- What the lines of a text say; `fuel` bounds their number. -/
def statementsTo : Nat → List Char → Option (List Statement)
  | 0, _ => none
  | fuel + 1, cs =>
    match skipBlanks cs with
    | [] => some []
    | '\n' :: rest => statementsTo fuel rest
    | '\r' :: '\n' :: rest => statementsTo fuel rest
    | '#' :: rest => do statementsTo fuel (← lineEnd ('#' :: rest))
    | cs => do
      let (s, rest) ← statement cs
      return s :: (← statementsTo fuel (← lineEnd rest))

/-- What the lines of a text say. -/
def statements (cs : List Char) : Option (List Statement) := statementsTo (cs.length + 1) cs

/-! ### The whole table -/

/-- Adds what the lines say to a table, `current` being the table that keys go into. -/
def assembleFrom : List String → Entries → List Statement → Option Entries
  | _, root, [] => some root
  | _, root, .table path :: rest => do
    let key ← path.getLast?
    assembleFrom path (← openTable path.dropLast key .header root) rest
  | _, root, .element path :: rest => do
    let key ← path.getLast?
    assembleFrom path (← openElement path.dropLast key .header root) rest
  | current, root, .entry path v :: rest => do
    let root ← changeAt false (fun _ entries => addAt path v .header entries) current .header root
    assembleFrom current root rest

/-- The table that the lines build. -/
def assemble (l : List Statement) : Option Entries := assembleFrom [] [] l

/-- A text without the mark of its byte order. -/
def dropByteOrderMark (cs : List Char) : List Char :=
  match cs with
  | '\uFEFF' :: rest => rest
  | _ => cs

/-- The table that a text spells, unless it is no document. -/
def parse (s : String) : Option Entries := do
  assemble (← statements (dropByteOrderMark s.toList))

end Toml

end ModuleBuild
