import ModuleBuild.Text.Blank
import ModuleBuild.Path

/-!
# Diagnostics

A diagnostic is one message to the user: how severe it is, one line of text, the file it is about,
and footnotes. What a failed tool has written travels as a note, so that it is shown under the
message that it explains.

## Main definitions

* `Severity` — note, warning or error, in this order
* `Diagnostic` — the message; `withPath`, `withNote` and `withHelp` add to it

## Main results

* `Diagnostic.notes_withNote` — a note is added at the end, unless it is blank
-/

namespace ModuleBuild

/-- How bad a message is. -/
inductive Severity where
  /-- Context, such as a step that was skipped. -/
  | note
  /-- Unexpected, but the build can still succeed. -/
  | warning
  /-- The build cannot succeed. -/
  | error
  deriving DecidableEq, Inhabited

namespace Severity

/-- The severities, in ascending order. -/
def every : List Severity := [note, warning, error]

/-- The place of a severity in the order. -/
def rank : Severity → Nat
  | note => 0
  | warning => 1
  | error => 2

/-- The word in front of a message. -/
def label : Severity → String
  | note => "note"
  | warning => "warning"
  | error => "error"

/-- The severity with a label. -/
def ofLabel? (s : String) : Option Severity := every.find? (·.label == s)

/-- Whether the build cannot succeed. -/
def isError : Severity → Bool
  | error => true
  | _ => false

/-- The severities of a list in ascending order. -/
def sort (l : List Severity) : List Severity := l.mergeSort (fun a b => a.rank ≤ b.rank)

/-- The greatest severity of a list. -/
def greatest? (l : List Severity) : Option Severity := (sort l).getLast?

theorem ofLabel?_label (s : Severity) : ofLabel? s.label = some s := by
  cases s <;> decide

end Severity

/-- A message to the user. -/
structure Diagnostic where
  /-- How bad it is. -/
  severity : Severity
  /-- The message. -/
  message : String
  /-- The file that the message is about. -/
  path : Option Path := none
  /-- What explains the message. -/
  notes : List String := []
  /-- What could be done. -/
  help : List String := []
  deriving DecidableEq

namespace Diagnostic

/-- The diagnostic, about the given file. -/
def withPath (d : Diagnostic) (path : Path) : Diagnostic := { d with path := some path }

/-- The diagnostic with one more note; a blank note is dropped. -/
def withNote (d : Diagnostic) (note : String) : Diagnostic :=
  if Text.isAllBlank note then d else { d with notes := d.notes ++ [note] }

/-- The diagnostic with one more suggestion. -/
def withHelp (d : Diagnostic) (text : String) : Diagnostic := { d with help := d.help ++ [text] }

/-- An error with nothing but a message. -/
def error (message : String) : Diagnostic := { severity := .error, message }

/-- A warning with nothing but a message. -/
def warning (message : String) : Diagnostic := { severity := .warning, message }

/-- A note with nothing but a message. -/
def note (message : String) : Diagnostic := { severity := .note, message }

theorem notes_withNote (d : Diagnostic) (text : String) :
    (d.withNote text).notes = if Text.isAllBlank text then d.notes else d.notes ++ [text] := by
  unfold withNote
  split <;> rfl

end Diagnostic

end ModuleBuild
