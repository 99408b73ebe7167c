import ModuleBuild.Diagnostic.Sink

/-!
# Sharing a sink

A sink may be used by several emitters and several takers at the same time. The count of errors and
the entries are two things: an emitter first counts its diagnostic if that is an error, and then
adds it to the entries. Between the two, others take their own steps.

## Main definitions

* `SharedSink` — a sink with the emits that are half done, and all that was taken
* `SharedSink.Move` — one step of one user
* `SharedSink.move?`, `SharedSink.moveAll?` — what is left after it, if it is possible at all
-/

namespace ModuleBuild

/-- A diagnostic with the number of its emitter. -/
abbrev Emission : Type := Nat × Diagnostic

/-- A sink in the hands of several users. -/
structure SharedSink where
  /-- What nobody has taken yet, in the order in which it was added. -/
  held : List Emission := []
  /-- How many errors were counted. -/
  errors : Nat := 0
  /-- What was counted and not added yet; no emitter has two of them. -/
  pending : List Emission := []
  /-- All that was taken, in order. -/
  taken : List Emission := []
  deriving DecidableEq

namespace SharedSink

/-- A step of one user. -/
inductive Move where
  /-- An emitter begins with a diagnostic: it counts it if it is an error. -/
  | count (emitter : Nat) (d : Diagnostic)
  /-- An emitter adds the diagnostic that it has begun with. -/
  | add (emitter : Nat)
  /-- Somebody takes everything that is held. -/
  | take
  deriving DecidableEq

/-- What a step begins to emit. -/
def Move.begun? : Move → Option Emission
  | count emitter d => some (emitter, d)
  | _ => none

/-- What an emitter has counted and not added yet. -/
def pendingOf? (s : SharedSink) (emitter : Nat) : Option Diagnostic := s.pending.lookup emitter

/-- The sink after a step. An emitter that is busy cannot begin, and an idle one has nothing to
add. -/
def move? (s : SharedSink) : Move → Option SharedSink
  | .count emitter d =>
    match s.pendingOf? emitter with
    | some _ => none
    | none => some { s with
        errors := if d.severity.isError then s.errors + 1 else s.errors
        pending := s.pending ++ [(emitter, d)] }
  | .add emitter =>
    match s.pendingOf? emitter with
    | some d => some { s with
        held := s.held ++ [(emitter, d)]
        pending := s.pending.filter (·.1 != emitter) }
    | none => none
  | .take => some { s with held := [], taken := s.taken ++ s.held }

/-- The sink after some steps. -/
def moveAll? (s : SharedSink) : List Move → Option SharedSink
  | [] => some s
  | m :: rest => (s.move? m).bind fun s => s.moveAll? rest

@[simp] theorem moveAll?_nil (s : SharedSink) : s.moveAll? [] = some s := rfl

theorem moveAll?_cons (s : SharedSink) (m : Move) (rest : List Move) :
    s.moveAll? (m :: rest) = (s.move? m).bind fun s => s.moveAll? rest := rfl

end SharedSink

end ModuleBuild
