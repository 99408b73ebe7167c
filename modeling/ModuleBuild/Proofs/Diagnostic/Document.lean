import ModuleBuild.Diagnostic.Document
import ModuleBuild.Proofs.Json.Reading
import ModuleBuild.Proofs.Json.Writing

/-!
# Diagnostics are read back

A written diagnostic is an object of its parts, and the path is a part only where there is one. The
reader takes the parts one by one and keeps each under its own name, so it has all of them in the
end, and no path if none was written. Nothing in a text is in the way of this: quotes, backslashes
and controls are escaped, and an empty path or a blank note is a text as any other.

A diagnostic is read whatever follows it. So a list of diagnostics is read back, too. The one thing
that cannot be written is a path that no text spells; a list with such a path is written as the
empty list.

## Main definitions

* `Diagnostic.Part` — one part of a diagnostic, and the field that it is written as
* `Diagnostic.parts` — the parts of a diagnostic in their order
* `Diagnostic.IsSpelled` — a text spells the path, if there is one

## Main results

* `Diagnostic.read_words` — a written diagnostic is read, whatever follows it
* `Diagnostic.ofDocument_pretty` — a diagnostic survives its document
* `Diagnostic.toJson?_eq_some` — which diagnostics can be written
* `Diagnostic.ofReport_of_document` — a list of diagnostics is read back
* `Diagnostic.report_of_not_isSpelled` — unless one of them cannot be written
-/

namespace ModuleBuild

open Json

namespace Diagnostic

variable {d : Diagnostic} {l : List Diagnostic} {text : String}

/-! ### The parts of a diagnostic -/

/-- A part of a diagnostic. -/
inductive Part where
  /-- How bad it is. -/
  | severity (s : Severity)
  /-- The message. -/
  | message (m : String)
  /-- The file that the message is about. -/
  | path (text : String)
  /-- What explains the message. -/
  | notes (l : List String)
  /-- What could be done. -/
  | help (l : List String)

/-- The field that a part is written as. -/
def Part.field : Part → String × Json
  | severity s => ("severity", .text s.label)
  | message m => ("message", .text m)
  | path text => ("path", .text text)
  | notes l => ("notes", .texts l)
  | help l => ("help", .texts l)

/-- The parts that have been read, with one more. -/
def Fields.put (f : Fields) : Part → Except Json.Error Fields
  | .severity s => putOnce "severity" f.severity (fun v => { f with severity := v }) s
  | .message m => putOnce "message" f.message (fun v => { f with message := v }) m
  | .path text => putOnce "path" f.path (fun v => { f with path := v }) (some (.ofText text))
  | .notes l => putOnce "notes" f.notes (fun v => { f with notes := v }) l
  | .help l => putOnce "help" f.help (fun v => { f with help := v }) l

/-- The parts of a diagnostic, its path being spelled by a text. There is none for a path that is
absent. -/
def parts (d : Diagnostic) (path : Option String) : List Part :=
  [.severity d.severity, .message d.message] ++ path.toList.map .path ++
    [.notes d.notes, .help d.help]

/-- A diagnostic is written as an object of its parts. -/
theorem object_eq (d : Diagnostic) (path : Option String) :
    d.object path = .object ((d.parts path).map Part.field) := by
  cases path <;> rfl

theorem Part.isProper_field (p : Part) : p.field.2.IsProper := by
  cases p <;> simp [field, texts, IsProper, areProper_iff]

theorem isProper_object (d : Diagnostic) (path : Option String) : (d.object path).IsProper := by
  rw [object_eq, IsProper, areProperFields_iff]
  intro f hf
  obtain ⟨p, -, rfl⟩ := List.mem_map.1 hf
  exact p.isProper_field

/-- The parts are all that is needed. -/
theorem foldlM_put (d : Diagnostic) (path : Option String) :
    (d.parts path).foldlM Fields.put {} = .ok ⟨some d.severity, some d.message,
      path.map fun text => some (.ofText text), some d.notes, some d.help⟩ := by
  cases path <;> rfl

/-- A text spells the path of a diagnostic, if it has one. -/
def IsSpelled (d : Diagnostic) : Prop := ∃ path : Option String, d.path = path.map Path.ofText

/-- **Which diagnostics can be written,** and as what. -/
theorem toJson?_eq_some {v : Json} :
    d.toJson? = some v ↔ ∃ path : Option String, d.path = path.map Path.ofText ∧
      v = d.object path := by
  unfold toJson?
  rcases hpath : d.path with _ | p
  · constructor
    · intro h
      exact ⟨none, rfl, (Option.some.inj h).symm⟩
    · rintro ⟨path, hnone, rfl⟩
      rw [Option.map_eq_none_iff.1 hnone.symm]
  · simp only [Option.map_eq_some_iff, Path.text?_eq_some]
    constructor
    · rintro ⟨text, rfl, rfl⟩
      exact ⟨some text, rfl, rfl⟩
    · rintro ⟨path, hsome, rfl⟩
      obtain ⟨text, rfl, rfl⟩ := Option.map_eq_some_iff.1 hsome.symm
      exact ⟨text, rfl, rfl⟩

/-- Those that cannot be written have a path that no text spells. -/
theorem toJson?_eq_none : d.toJson? = none ↔ ¬ d.IsSpelled := by
  rw [Option.eq_none_iff_forall_ne_some]
  constructor
  · rintro h ⟨path, hpath⟩
    exact h _ (toJson?_eq_some.2 ⟨path, hpath, rfl⟩)
  · intro h v hv
    obtain ⟨path, hpath, -⟩ := toJson?_eq_some.1 hv
    exact h ⟨path, hpath⟩

/-! ### Reading -/

theorem readSeverity_words (s : Severity) (rest : List Token) :
    readSeverity ((Json.text s.label).tree.words ++ rest) = .ok (s, rest) := by
  cases s <;> rfl

/-- Texts are read whatever follows them. -/
theorem readTexts_texts (l : List String) (rest : List Token) :
    readTexts "a sequence" ((Json.texts l).tree.words ++ rest) = .ok (l, rest) := by
  have htree : (Json.texts l).tree = .list (l.map fun s => .text (some s)) := by
    simp [texts, tree, itemTrees_eq_map]
  rw [htree, readTexts_words]

/-- **A part is read from its field,** whatever follows it. -/
theorem Part.readsField (p : Part) :
    ReadsField readField (fun f _ => f.put p) (p.field.1, p.field.2.tree) := by
  intro f rest
  cases p <;> simp only [field, readField, String.reduceEq, if_true, if_false]
  case severity s => exact readOnce_words (readSeverity_words s) ..
  case message m => exact readOnce_words (fun _ => rfl) ..
  case path p => exact readOnce_words (fun _ => rfl) ..
  case notes l => exact readOnce_words (readTexts_texts l) ..
  case help l => exact readOnce_words (readTexts_texts l) ..

/-- **A written diagnostic is read,** whatever follows it. -/
theorem read_words {path : Option String} (h : d.path = path.map Path.ofText) (rest : List Token) :
    read ((d.object path).tree.words ++ rest) = .ok (d, rest) := by
  have hfields : fieldTrees ((d.parts path).map Part.field) =
      ((d.parts path).map fun p => (p.field.1, p.field.2.tree)).map keyed := by
    rw [fieldTrees_eq_map, List.map_map, List.map_map]
    rfl
  rw [object_eq, tree, hfields, Tree.words, List.cons_append, List.append_assoc,
    List.singleton_append, read, readObject_map fun p _ => p.readsField, foldlM_put]
  obtain ⟨severity, message, path', notes, help⟩ := d
  obtain rfl : path' = path.map Path.ofText := h
  cases path <;> rfl

/-- Every document of a diagnostic is read as the diagnostic. -/
theorem ofDocument_of_document {path : Option String} (hpath : d.path = path.map Path.ofText)
    (h : Document (d.object path).tree text) : ofDocument text = .ok d := by
  have hread := read_words hpath []
  rw [List.append_nil] at hread
  rw [ofDocument, readDocument, h.tokens, hread]
  rfl

/-- **A diagnostic survives its document.** Its path, if it has one, being spelled by any text, it
can be written. The document is one of the object of the diagnostic, and what is read from it is the
diagnostic with every part as it was: an absent path is absent and an empty one is empty. -/
theorem ofDocument_pretty (severity : Severity) (message : String) (path : Option String)
    (notes help : List String) :
    let d : Diagnostic := ⟨severity, message, path.map Path.ofText, notes, help⟩
    ∃ v, d.toJson? = some v ∧ Document v.tree v.pretty ∧ ofDocument v.pretty = .ok d := by
  intro d
  have hdocument := document_pretty (d.isProper_object path)
  exact ⟨d.object path, toJson?_eq_some.2 ⟨path, rfl, rfl⟩, hdocument,
    ofDocument_of_document rfl hdocument⟩

/-! ### Lists of diagnostics -/

/-- What a diagnostic is written as, a path that no text spells being left out. -/
def written (d : Diagnostic) : Json := d.object (d.path.bind Path.text?)

theorem IsSpelled.path_eq (h : d.IsSpelled) :
    d.path = (d.path.bind Path.text?).map Path.ofText := by
  obtain ⟨path, hpath⟩ := h
  rw [hpath]
  cases path with
  | none => rfl
  | some text =>
    rw [Option.map_some, Option.bind_some, Path.text?_eq_some.2 rfl, Option.map_some]

theorem IsSpelled.toJson?_eq (h : d.IsSpelled) : d.toJson? = some d.written :=
  toJson?_eq_some.2 ⟨_, h.path_eq, rfl⟩

/-- A list is written if texts spell the paths. -/
theorem mapM_toJson? (h : ∀ d ∈ l, d.IsSpelled) : l.mapM toJson? = some (l.map written) := by
  induction l with
  | nil => rfl
  | cons d l ih =>
    obtain ⟨hd, hl⟩ := List.forall_mem_cons.1 h
    rw [List.mapM_cons, hd.toJson?_eq, ih hl]
    rfl

/-- **If some path is spelled by no text,** then the list is not written, but an empty one. -/
theorem report_of_not_isSpelled (h : ∃ d ∈ l, ¬ d.IsSpelled) : report l = "[]" := by
  have hnone : l.mapM toJson? = none := by
    obtain ⟨d, hd, hno⟩ := h
    induction l with
    | nil => simp at hd
    | cons d' l ih =>
      rw [List.mapM_cons]
      rcases List.mem_cons.1 hd with rfl | hd
      · rw [toJson?_eq_none.2 hno]
        rfl
      · rw [ih hd]
        cases d'.toJson? <;> rfl
  rw [report, hnone]

theorem document_report (h : ∀ d ∈ l, d.IsSpelled) :
    Document (.list (l.map fun d => d.written.tree)) (report l) := by
  have hproper : (Json.list (l.map written)).IsProper := by
    rw [IsProper, areProper_iff]
    intro v hv
    obtain ⟨d, -, rfl⟩ := List.mem_map.1 hv
    exact d.isProper_object _
  have hdocument := document_pretty hproper
  rw [tree, itemTrees_eq_map, List.map_map] at hdocument
  rw [report, mapM_toJson? h]
  exact hdocument

/-- **Every document of a list of diagnostics is read as the list.** -/
theorem ofReport_of_document (h : ∀ d ∈ l, d.IsSpelled)
    (hdocument : Document (.list (l.map fun d => d.written.tree)) text) :
    ofReport text = .ok l := by
  have hread := readListOf_words "a sequence" (fun d hd => read_words (h d hd).path_eq) (l := l) []
  rw [List.append_nil] at hread
  rw [ofReport, readDocument, hdocument.tokens]
  exact congrArg finish hread

end Diagnostic

end ModuleBuild
