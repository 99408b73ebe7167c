import ModuleBuild.Text.Quoted

/-!
# Values that do not fit

Manifests, reports and settings are read from documents in which a value of the wrong kind can
stand anywhere. This module says in which ways a value fails to fit, whatever the format of the
document, and how that is worded.

## Main definitions

* `Found` — what stands in the document
* `Mismatch` — why it does not fit
* `Mismatch.message` — the wording
-/

namespace ModuleBuild

/-- What stands in a document where something else was expected. -/
inductive Found where
  /-- A whole number. -/
  | integer (n : Int)
  /-- A number with a fraction, as the format of the document writes it. -/
  | floating (shown : String)
  /-- A truth value. -/
  | boolean (b : Bool)
  /-- A text. -/
  | text (s : String)
  /-- The absence of a value. -/
  | null
  /-- A value with named parts. -/
  | map
  /-- A list of values. -/
  | sequence
  deriving DecidableEq

namespace Found

/-- The name of what was found. -/
def describe : Found → String
  | integer n => s!"integer `{n}`"
  | floating shown => s!"floating point `{shown}`"
  | boolean b => s!"boolean `{b}`"
  | text s => s!"string {Text.quoted s}"
  | null => "null"
  | map => "map"
  | sequence => "sequence"

end Found

/-- Why a value does not fit. -/
inductive Mismatch where
  /-- It is of the wrong kind. -/
  | kind (found : Found) (expected : String)
  /-- It is of the right kind, but out of range. -/
  | value (found : Found) (expected : String)
  /-- It has too few parts. -/
  | length (count : Nat) (expected : String)
  /-- It is a name that is none of the choices. -/
  | choice (name : String) (choices : List String)
  /-- A part is missing. -/
  | missing (field : String)
  /-- A part is given twice. -/
  | duplicate (field : String)
  deriving DecidableEq

namespace Mismatch

/-- A list of choices, each in quotes. -/
def describeChoices (choices : List String) : String :=
  match choices with
  | [] => "there are no variants"
  | [a] => s!"expected `{a}`"
  | [a, b] => s!"expected `{a}` or `{b}`"
  | _ => "expected one of " ++ String.intercalate ", " (choices.map fun c => s!"`{c}`")

/-- What is said about a value that does not fit. -/
def message : Mismatch → String
  | kind found expected => s!"invalid type: {found.describe}, expected {expected}"
  | value found expected => s!"invalid value: {found.describe}, expected {expected}"
  | length count expected => s!"invalid length {count}, expected {expected}"
  | choice name choices => s!"unknown variant `{name}`, {describeChoices choices}"
  | missing field => s!"missing field `{field}`"
  | duplicate field => s!"duplicate field `{field}`"

end Mismatch

end ModuleBuild
