import ModuleBuild.Diagnostic.Basic

/-!
# Collecting diagnostics

The steps of a build do not print. They emit diagnostics into a sink, which keeps them in order
until they are taken, and counts the errors for ever.

## Main definitions

* `Sink` — the entries held, and the number of errors ever emitted
* `Sink.emit`, `Sink.takeAll` — add one entry, take all of them
* `Sink.Use`, `Sink.useAll` — a history of uses, with what each has given back

## Main results

* `Sink.useAll_append` — a history can be cut anywhere
-/

namespace ModuleBuild

/-- Diagnostics on their way to the user. -/
structure Sink where
  /-- The diagnostics that nobody has taken yet, in order of emission. -/
  entries : List Diagnostic := []
  /-- How many errors have been emitted so far, taken or not. -/
  errors : Nat := 0
  deriving DecidableEq

namespace Sink

/-- A sink that nothing has been emitted into. -/
def empty : Sink := {}

/-- The sink with one more diagnostic. -/
def emit (s : Sink) (d : Diagnostic) : Sink where
  entries := s.entries ++ [d]
  errors := if d.severity.isError then s.errors + 1 else s.errors

/-- The diagnostics held, and the sink without them. -/
def takeAll (s : Sink) : List Diagnostic × Sink := (s.entries, { s with entries := [] })

/-- Whether an error has ever been emitted. -/
def hasErrors (s : Sink) : Bool := s.errors != 0

@[simp] theorem entries_emit (s : Sink) (d : Diagnostic) :
    (s.emit d).entries = s.entries ++ [d] := rfl

/-- Diagnostics that are emitted one after another are held in that order. -/
theorem entries_foldl_emit (s : Sink) (ds : List Diagnostic) :
    (ds.foldl emit s).entries = s.entries ++ ds := by
  induction ds generalizing s with
  | nil => rw [List.foldl_nil, List.append_nil]
  | cons d ds ih => rw [List.foldl_cons, ih, entries_emit, List.append_assoc, List.singleton_append]

/-- Each error counts. -/
theorem errors_foldl_emit {ds : List Diagnostic} (h : ∀ d ∈ ds, d.severity.isError = true)
    (s : Sink) : (ds.foldl emit s).errors = s.errors + ds.length := by
  induction ds generalizing s with
  | nil => rfl
  | cons d ds ih =>
    have hd : (s.emit d).errors = s.errors + 1 := if_pos (h d List.mem_cons_self)
    rw [List.foldl_cons, ih (fun e he => h e (List.mem_cons_of_mem _ he)), hd, List.length_cons]
    omega

/-! ### Histories -/

/-- A use of a sink. -/
inductive Use where
  /-- A diagnostic is emitted. -/
  | emit (d : Diagnostic)
  /-- All diagnostics are taken. -/
  | takeAll
  /-- The diagnostics are looked at. -/
  | look
  deriving DecidableEq

/-- The diagnostic that a use emits. -/
def Use.emitted? : Use → Option Diagnostic
  | emit d => some d
  | _ => none

/-- What a use gives back, and the sink after it. -/
def use (s : Sink) : Use → List Diagnostic × Sink
  | .emit d => ([], s.emit d)
  | .takeAll => s.takeAll
  | .look => (s.entries, s)

/-- Each use of a history with what it has given back, and the sink after the last. -/
def useAll (s : Sink) : List Use → List (Use × List Diagnostic) × Sink
  | [] => ([], s)
  | u :: rest =>
    let (given, s) := s.use u
    let (history, s) := s.useAll rest
    ((u, given) :: history, s)

/-- The diagnostics that were taken, in order. -/
def taken (history : List (Use × List Diagnostic)) : List Diagnostic :=
  (history.filter (·.1 = .takeAll)).flatMap Prod.snd

@[simp] theorem useAll_nil (s : Sink) : s.useAll [] = ([], s) := rfl

theorem useAll_cons (s : Sink) (u : Use) (rest : List Use) :
    s.useAll (u :: rest) =
      ((u, (s.use u).1) :: ((s.use u).2.useAll rest).1, ((s.use u).2.useAll rest).2) := rfl

theorem useAll_append (s : Sink) (l₁ l₂ : List Use) :
    s.useAll (l₁ ++ l₂) =
      ((s.useAll l₁).1 ++ ((s.useAll l₁).2.useAll l₂).1, ((s.useAll l₁).2.useAll l₂).2) := by
  induction l₁ generalizing s with
  | nil => rfl
  | cons u rest ih => simp [useAll_cons, ih]

end Sink

end ModuleBuild
