import ModuleBuild.Diagnostic.Basic

/-!
# Diagnostics on a terminal

A diagnostic is shown as its label and message, then the file, then the notes and suggestions, each
indented under the message:

```text
error: failed to run llc on lib/a.bc!
  --> lib/a.bc
   = note: llc: invalid signature
           second line of the note
   = help: check that the manifest lists valid bytecode units
```

## Main definitions

* `Diagnostic.noteLines` — the lines of a note that are shown
* `Diagnostic.render` — the text of a diagnostic
-/

namespace ModuleBuild

namespace Severity

/-- The number of the terminal colour of a label: red, yellow or cyan. -/
def colourCode : Severity → Nat
  | error => 31
  | warning => 33
  | note => 36

/-- The label as it is shown, in bold colour on demand. -/
def shownLabel (s : Severity) (colour : Bool) : String :=
  if colour then s!"\x1b[1;{s.colourCode}m{s.label}\x1b[0m" else s.label

end Severity

namespace Diagnostic

/-- The lines of a note: blanks at its end are not shown, and an empty note has no line. -/
def noteLines (note : String) : List String := Text.lines (Text.trimEnd note)

/-- A note below its message: the first line behind a mark, the others under its text. -/
def renderNote (note : String) : String :=
  match noteLines note with
  | [] => ""
  | first :: rest =>
    s!"   = note: {first}\n" ++ String.join (rest.map fun line => s!"           {line}\n")

/-- The text of a diagnostic. -/
def render (colour : Bool) (d : Diagnostic) : String :=
  s!"{d.severity.shownLabel colour}: {d.message}\n" ++
    (match d.path with
      | some path => s!"  --> {path.shown}\n"
      | none => "") ++
    String.join (d.notes.map renderNote) ++
    String.join (d.help.map fun text => s!"   = help: {text}\n")

end Diagnostic

end ModuleBuild
