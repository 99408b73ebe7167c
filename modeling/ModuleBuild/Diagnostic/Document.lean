import ModuleBuild.Diagnostic.Basic
import ModuleBuild.Json.Reader
import ModuleBuild.Json.Value

/-!
# Diagnostics as JSON

A diagnostic is an object with its fields in a fixed order; the path is left out where there is
none. A path that no text spells cannot be written, and then there is no object. A diagnostic is
read back from its object, with the keys in any order and others among them, or from a list of the
five fields.

## Main definitions

* `Diagnostic.toJson?` — the object of a diagnostic, if it can be written
* `Diagnostic.ofDocument` — reads a diagnostic
* `Diagnostic.report` — the document for a list of diagnostics
* `Diagnostic.ofReport` — reads a list of diagnostics
-/

namespace ModuleBuild

namespace Diagnostic

/-- The object of a diagnostic with the text of its path. -/
def object (d : Diagnostic) (path : Option String) : Json :=
  .object <|
    [("severity", .text d.severity.label), ("message", .text d.message)] ++
      (match path with
        | some text => [("path", .text text)]
        | none => []) ++
      [("notes", Json.texts d.notes), ("help", Json.texts d.help)]

/-- The object of a diagnostic, unless no text spells its path. -/
def toJson? (d : Diagnostic) : Option Json :=
  match d.path with
  | none => some (d.object none)
  | some path => path.text?.map fun text => d.object (some text)

/-- The document for a list of diagnostics. It is an empty list if one of them cannot be written. -/
def report (l : List Diagnostic) : String :=
  match l.mapM toJson? with
  | some objects => (Json.list objects).pretty
  | none => "[]"

/-! ### Reading -/

/-- The fields of a diagnostic that have been read so far. A path can be given as absent. -/
structure Fields where
  /-- The severity. -/
  severity : Option Severity := none
  /-- The message. -/
  message : Option String := none
  /-- The path. -/
  path : Option (Option Path) := none
  /-- The notes. -/
  notes : Option (List String) := none
  /-- The suggestions. -/
  help : Option (List String) := none

/-- Reads a severity. -/
def readSeverity (ts : List Json.Token) : Except Json.Error (Severity × List Json.Token) := do
  let (label, rest) ← Json.readChoice (Severity.every.map Severity.label) ts
  return ((Severity.ofLabel? label).getD .note, rest)

/-- Reads a path or the absence of one. -/
def readPath (ts : List Json.Token) : Except Json.Error (Option Path × List Json.Token) := do
  let (text, rest) ← Json.readOptionalText "path string" ts
  return (text.map Path.ofText, rest)

/-- Reads the value of one key. -/
def readField (f : Fields) (key : String) (ts : List Json.Token) :
    Except Json.Error (Fields × List Json.Token) :=
  if key = "severity" then
    Json.readOnce key f.severity (fun v => { f with severity := v }) readSeverity ts
  else if key = "message" then
    Json.readOnce key f.message (fun v => { f with message := v }) (Json.readText "a string") ts
  else if key = "path" then
    Json.readOnce key f.path (fun v => { f with path := v }) readPath ts
  else if key = "notes" then
    Json.readOnce key f.notes (fun v => { f with notes := v }) (Json.readTexts "a sequence") ts
  else if key = "help" then
    Json.readOnce key f.help (fun v => { f with help := v }) (Json.readTexts "a sequence") ts
  else Json.skipField f ts

/-- The diagnostic of the fields, if all that must be given are there. -/
def ofFields (f : Fields) : Except Json.Error Diagnostic := do
  let severity ← Json.required "severity" f.severity
  let message ← Json.required "message" f.message
  let notes ← Json.required "notes" f.notes
  let help ← Json.required "help" f.help
  return { severity, message, path := f.path.join, notes, help }

/-- Reads the five fields of a diagnostic from a list. -/
def readList (ts : List Json.Token) : Except Json.Error (Diagnostic × List Json.Token) := do
  let absent {α : Type} (count : Nat) : Except Json.Error α :=
    .error (.mismatch (.length count "struct Diagnostic with 5 elements"))
  let (severity, ts) ← Json.readElement true (absent 0) readSeverity ts
  let (message, ts) ← Json.readElement false (absent 1) (Json.readText "a string") ts
  let (path, ts) ← Json.readElement false (absent 2) readPath ts
  let (notes, ts) ← Json.readElement false (absent 3) (Json.readTexts "a sequence") ts
  let (help, ts) ← Json.readElement false (absent 4) (Json.readTexts "a sequence") ts
  let ts ← Json.endList ts
  return ({ severity, message, path, notes, help }, ts)

/-- Reads a diagnostic. -/
def read : List Json.Token → Except Json.Error (Diagnostic × List Json.Token)
  | .openBrace :: ts => do
    let (fields, rest) ← Json.readObject readField {} ts
    return (← ofFields fields, rest)
  | .openBracket :: ts => readList ts
  | ts => .error (Json.unexpected "struct Diagnostic" ts)

/-- Reads a document that is a diagnostic. -/
def ofDocument (s : String) : Except Json.Error Diagnostic := Json.readDocument read s

/-- Reads a document that is a list of diagnostics. -/
def ofReport (s : String) : Except Json.Error (List Diagnostic) :=
  Json.readDocument (Json.readListOf "a sequence" read) s

end Diagnostic

end ModuleBuild
