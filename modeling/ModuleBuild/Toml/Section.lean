import ModuleBuild.Toml.Document

/-!
# Sections of a TOML document

A section is a table whose entries set the fields of a record. Entries that are no fields are passed
over, fields without an entry keep their value, and the first entry that does not fit is reported.
A section may also be a list of its fields in order; further items are passed over then, too.

## Main definitions

* `Toml.Misfit` — why a document does not say what it should
* `Toml.readText`, `Toml.readCount`, `Toml.readChoice` — values of one kind
* `Toml.Field`, `Toml.readEntries`, `Toml.readSection` — the fields of a record
-/

namespace ModuleBuild

namespace Toml

/-- Why a document does not say what it should. -/
inductive Misfit where
  /-- It is no document, or a choice is not written as one. -/
  | form
  /-- A value does not fit. -/
  | mismatch (m : Mismatch)
  deriving DecidableEq

/-! ### Values -/

/-- Refuses a node of the wrong kind. -/
def unexpected {α : Type} (expected : String) (node : Node) : Except Misfit α :=
  .error (.mismatch (.kind node.found expected))

/-- Reads a text. -/
def readText : Node → Except Misfit String
  | .text s => .ok s
  | node => unexpected "a string" node

/-- Reads a number of things. -/
def readCount : Node → Except Misfit Nat
  | .integer n =>
    if n < 0 then .error (.mismatch (.value (.integer n) "usize")) else .ok n.toNat
  | node => unexpected "usize" node

/-- Whether a node is a list or a table with nothing in it. -/
def Node.isEmptyCollection : Node → Bool
  | .list items => items.isEmpty
  | .inline entries => entries.isEmpty
  | .table _ entries => entries.isEmpty
  | .tables items => items.isEmpty
  | _ => false

/-- Reads a name that must be one of the choices. -/
def readName (choices : List String) (name : String) : Except Misfit String :=
  if name ∈ choices then .ok name else .error (.mismatch (.choice name choices))

/-- Reads a choice: its name, or a table that has its name as the only key, with nothing in it. -/
def readChoice (choices : List String) : Node → Except Misfit String
  | .text name => readName choices name
  | .inline [e] => ofEntry e
  | .table _ [e] => ofEntry e
  | _ => .error .form
where
  /-- Reads a choice with its value. -/
  ofEntry (e : String × Node) : Except Misfit String := do
    let name ← readName choices e.1
    if e.2.isEmptyCollection then return name else throw .form

/-! ### Records -/

/-- A field of a record: its name, and how its value changes the record. -/
structure Field (α : Type) where
  /-- The name of the field. -/
  name : String
  /-- The record with the value that is read from a node. -/
  set : α → Node → Except Misfit α

/-- Sets the field that an entry names, if it names one. -/
def readEntry {α : Type} (fields : List (Field α)) (record : α) (e : String × Node) :
    Except Misfit α :=
  match fields.find? (·.name == e.1) with
  | some field => field.set record e.2
  | none => .ok record

/-- Sets the fields that entries name. -/
def readEntries {α : Type} (fields : List (Field α)) (record : α) (entries : Entries) :
    Except Misfit α :=
  entries.foldlM (readEntry fields) record

/-- Sets the fields in order. -/
def readItems {α : Type} (fields : List (Field α)) (record : α) (items : List Node) :
    Except Misfit α :=
  (fields.zip items).foldlM (fun record (field, node) => field.set record node) record

/-- Sets the fields of a record from a section. -/
def readSection {α : Type} (kind : String) (fields : List (Field α)) (record : α) :
    Node → Except Misfit α
  | .table _ entries => readEntries fields record entries
  | .inline entries => readEntries fields record entries
  | .list items => readItems fields record items
  | .tables items => readItems fields record (items.map (Node.table .header ·))
  | .moment => .ok record
  | node => unexpected s!"struct {kind}" node

end Toml

end ModuleBuild
