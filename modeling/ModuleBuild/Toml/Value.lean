import ModuleBuild.Mismatch
import ModuleBuild.Number.Shortest

/-!
# TOML values and tables

A document is a table of named values, in the order in which they are written. Tables can be begun
in several ways, and a table that was begun in one way can be added to in some ways and not in
others; so a table remembers how it was begun.

## Main definitions

* `Toml.Node` — values and tables
* `Toml.Entries` — the entries of a table
* `Toml.addEntry`, `Toml.openTable`, `Toml.openElement` — add to a table of tables
* `Toml.Node.found` — a node as something that was found
-/

namespace ModuleBuild

namespace Toml

/-- A floating-point number. -/
inductive Real where
  /-- A finite number, and whether it has a minus sign. -/
  | finite (negative : Bool) (size : Binary64)
  /-- An infinite number, and whether it has a minus sign. -/
  | infinite (negative : Bool)
  /-- No number. -/
  | nan
  deriving DecidableEq

/-- Floating-point numbers are always written without an exponent. -/
def floatLayout : Decimal.Layout := ⟨none, none⟩

/-- The text of a floating-point number. -/
def Real.text : Real → String
  | finite negative size => (if negative then "-" else "") ++ size.shortest.render floatLayout
  | infinite negative => if negative then "-inf" else "inf"
  | nan => "NaN"

/-- How a table was begun. -/
inductive Origin where
  /-- By a header of its own, or as the whole document. -/
  | header
  /-- By the header of a table in it. -/
  | implied
  /-- By a key with dots. -/
  | dotted
  deriving DecidableEq

/-- A value or a table. -/
inductive Node where
  /-- A text. -/
  | text (s : String)
  /-- A whole number. -/
  | integer (n : Int)
  /-- A floating-point number. -/
  | real (r : Real)
  /-- A truth value. -/
  | boolean (b : Bool)
  /-- A date, a time, or both; nothing needs to know which. -/
  | moment
  /-- A list in brackets. -/
  | list (items : List Node)
  /-- A table in braces, to which nothing can be added. -/
  | inline (entries : List (String × Node))
  /-- A table, and how it was begun. -/
  | table (origin : Origin) (entries : List (String × Node))
  /-- A list of tables, each begun by a header. -/
  | tables (items : List (List (String × Node)))

/-- The entries of a table, in the order in which they are written. -/
abbrev Entries := List (String × Node)

/-- What a node is, where something else was expected. -/
def Node.found : Node → Found
  | text s => .text s
  | integer n => .integer n
  | real r => .floating r.text
  | boolean b => .boolean b
  | moment => .map
  | list _ => .sequence
  | inline _ => .map
  | table .. => .map
  | tables _ => .sequence

/-! ### Adding to tables -/

/-- The entries with another value for a key. -/
def replace (key : String) (value : Node) (entries : Entries) : Entries :=
  entries.map fun e => if e.1 = key then (key, value) else e

/-- Changes the table at a path. Tables on the way that are missing are begun, by dots or by a
header as `dots` says. Dots lead into no table that has a header, and nothing leads into a value;
the way through a list of tables leads into its last one. -/
def changeAt (dots : Bool) (change : Origin → Entries → Option Entries) :
    List String → Origin → Entries → Option Entries
  | [], origin, entries => change origin entries
  | key :: path, _, entries =>
    match entries.lookup key with
    | none => do
      let origin : Origin := if dots then .dotted else .implied
      return entries ++ [(key, .table origin (← changeAt dots change path origin []))]
    | some (.table origin inner) =>
      if dots && origin == .header then none
      else do
        return replace key (.table origin (← changeAt dots change path origin inner)) entries
    | some (.tables items) => do
      let last ← items.getLast?
      let last ← changeAt dots change path .header last
      return replace key (.tables (items.dropLast ++ [last])) entries
    | some _ => none

/-- Adds a value under a key with dots. Behind dots there must be a table that was begun by dots. -/
def addEntry (path : List String) (key : String) (value : Node) :
    Origin → Entries → Option Entries :=
  changeAt true
    (fun origin entries =>
      if (origin == .dotted) == path.isEmpty then none
      else if (entries.lookup key).isSome then none
      else some (entries ++ [(key, value)]))
    path

/-- Begins a table by a header. It may have been begun by the header of a table in it, and then
counts from here on. -/
def openTable (path : List String) (key : String) : Origin → Entries → Option Entries :=
  changeAt false
    (fun _ entries =>
      match entries.lookup key with
      | none => some (entries ++ [(key, .table .header [])])
      | some (.table .implied inner) =>
        some (entries.filter (·.1 ≠ key) ++ [(key, .table .header inner)])
      | some _ => none)
    path

/-- Begins one more table of a list of tables. -/
def openElement (path : List String) (key : String) : Origin → Entries → Option Entries :=
  changeAt false
    (fun _ entries =>
      match entries.lookup key with
      | none => some (entries ++ [(key, .tables [[]])])
      | some (.tables items) => some (replace key (.tables (items ++ [[]])) entries)
      | some _ => none)
    path

end Toml

end ModuleBuild
