import Mathlib.Data.List.Count
import Mathlib.Data.List.Nodup
import ModuleBuild.Diagnostic.Sharing

/-!
# The accounts of a sink

What is emitted into a sink is taken out of it or still in it, once each and in order, and every
error counts for ever. For a sink with one user this is read off its history.

## Several users

The count and the entries are two things, so while others take their steps the account of a shared
sink has three parts: what was taken, what is held, and what was counted and not added yet. No step
changes what an emitter has in the three together, but for the diagnostic that it begins with; and
the count is that of all three. So the count is never below the errors that somebody can see, and it
agrees with them as soon as nobody is in between.

Which steps can follow one another is told by the steps of each emitter alone: it begins, adds, and
begins again. Takers may come at any moment.

## Main definitions

* `Sink.emitted`, `SharedSink.begun` — what a history has emitted
* `Sink.Accounted`, `SharedSink.Accounted` — the accounts after a history
* `SharedSink.IsInterleaving` — steps of several users that each keep to their own order

## Main results

* `Sink.accounted_useAll` — the accounts of a sink with one user
* `SharedSink.Balanced.move`, `SharedSink.Balanced.moveAll` — what one step keeps, and what a run
  keeps
* `SharedSink.exists_moveAll?_iff` — the runs are the interleavings
* `Sink.accounting` — both sinks
-/

namespace ModuleBuild

namespace Sink

/-! ### One user -/

/-- The diagnostics that a history emits. -/
def emitted (uses : List Use) : List Diagnostic := uses.filterMap Use.emitted?

/-- How many diagnostics are errors. -/
def errorCount (l : List Diagnostic) : Nat := l.countP (·.severity.isError)

/-- The accounts of a sink after some uses. -/
structure Accounted (uses : List Use) (history : List (Use × List Diagnostic)) (s : Sink) :
    Prop where
  /-- Every use has been answered, in order. -/
  answered : history.map Prod.fst = uses
  /-- What was taken and what is held are what was emitted. -/
  complete : taken history ++ s.entries = emitted uses
  /-- All errors were counted. -/
  errors : s.errors = errorCount (emitted uses)
  /-- There have been errors if one was emitted. -/
  hasErrors : s.hasErrors = true ↔ ∃ d ∈ emitted uses, d.severity.isError = true

variable {s : Sink} {uses : List Use}

theorem taken_cons (u : Use) (given : List Diagnostic) (history : List (Use × List Diagnostic)) :
    taken ((u, given) :: history) = (if u = .takeAll then given else []) ++ taken history := by
  by_cases h : u = .takeAll <;> simp [taken, h]

theorem answered_useAll (s : Sink) (uses : List Use) : (s.useAll uses).1.map Prod.fst = uses := by
  induction uses generalizing s with
  | nil => rfl
  | cons u rest ih => rw [useAll_cons, List.map_cons, ih]

/-- What was taken and what is held are what was held and emitted. -/
theorem taken_useAll (s : Sink) (uses : List Use) :
    taken (s.useAll uses).1 ++ (s.useAll uses).2.entries = s.entries ++ emitted uses := by
  induction uses generalizing s with
  | nil => simp [taken, emitted]
  | cons u rest ih =>
    rw [useAll_cons, taken_cons, List.append_assoc, ih]
    cases u with
    | emit d => simp [use, emit, emitted, Use.emitted?]
    | takeAll => rfl
    | look => rfl

/-- Every error that is emitted counts. -/
theorem errors_useAll (s : Sink) (uses : List Use) :
    (s.useAll uses).2.errors = s.errors + errorCount (emitted uses) := by
  induction uses generalizing s with
  | nil => rfl
  | cons u rest ih =>
    rw [useAll_cons, ih]
    cases u with
    | takeAll => rfl
    | look => rfl
    | emit d =>
      have hcount : errorCount (emitted (.emit d :: rest)) =
          errorCount (emitted rest) + if d.severity.isError then 1 else 0 := List.countP_cons
      have hemit : (s.use (.emit d)).2.errors =
          if d.severity.isError then s.errors + 1 else s.errors := rfl
      rw [hcount, hemit]
      split <;> omega

theorem hasErrors_iff (s : Sink) : s.hasErrors = true ↔ 0 < s.errors := by
  simp [hasErrors, Nat.pos_iff_ne_zero]

/-- **The accounts of a sink with one user.** -/
theorem accounted_useAll (uses : List Use) :
    Accounted uses (empty.useAll uses).1 (empty.useAll uses).2 where
  answered := answered_useAll empty uses
  complete := taken_useAll empty uses
  errors := by rw [errors_useAll, empty, Nat.zero_add]
  hasErrors := by rw [hasErrors_iff, errors_useAll, empty, Nat.zero_add, errorCount,
    List.countP_pos_iff]

/-- Whoever looks at the diagnostics sees those that are held, and the history goes on as if nobody
had looked. -/
theorem useAll_look (s : Sink) (before after : List Use) :
    s.useAll (before ++ .look :: after) =
      ((s.useAll before).1 ++ (.look, (s.useAll before).2.entries) ::
        ((s.useAll before).2.useAll after).1, ((s.useAll before).2.useAll after).2) := by
  rw [useAll_append, useAll_cons]
  rfl

/-- There never cease to have been errors. -/
theorem hasErrors_useAll (h : s.hasErrors = true) (uses : List Use) :
    (s.useAll uses).2.hasErrors = true := by
  rw [hasErrors_iff] at h ⊢
  rw [errors_useAll]
  omega

end Sink

namespace SharedSink

open Sink (errorCount)

/-! ### Several users -/

/-- What the steps of a history begin to emit. -/
def begun (moves : List Move) : List Emission := moves.filterMap Move.begun?

/-- The part of an emitter. -/
def ofEmitter (emitter : Nat) (l : List Emission) : List Emission := l.filter (·.1 == emitter)

/-- All that a sink has to account for. -/
def account (s : SharedSink) : List Emission := s.taken ++ s.held ++ s.pending

/-- The accounts of a shared sink after some steps. -/
structure Accounted (moves : List Move) (s : SharedSink) : Prop where
  /-- Each diagnostic that was begun with is in one place, and once. -/
  perm : s.account.Perm (begun moves)
  /-- The diagnostics of each emitter are in its order. -/
  order : ∀ emitter, ofEmitter emitter s.account = ofEmitter emitter (begun moves)
  /-- No error can be seen that was not counted. -/
  covered : errorCount ((s.taken ++ s.held).map Prod.snd) ≤ s.errors
  /-- When nobody is about to add a diagnostic, the errors that can be seen are those counted. -/
  settled : s.pending = [] → errorCount ((s.taken ++ s.held).map Prod.snd) = s.errors

/-- What every step keeps, `l` being what was begun with so far. -/
structure Balanced (l : List Emission) (s : SharedSink) : Prop where
  /-- The diagnostics of each emitter are in its order. -/
  order : ∀ emitter, ofEmitter emitter s.account = ofEmitter emitter l
  /-- All errors that were begun with are counted. -/
  errors : errorCount (s.account.map Prod.snd) = s.errors
  /-- No emitter is about to add two diagnostics. -/
  nodup : (s.pending.map Prod.fst).Nodup

variable {s s' : SharedSink} {l pending : List Emission} {m : Move} {moves : List Move}
  {emitter other : Nat} {d : Diagnostic}

theorem ofEmitter_append (emitter : Nat) (l₁ l₂ : List Emission) :
    ofEmitter emitter (l₁ ++ l₂) = ofEmitter emitter l₁ ++ ofEmitter emitter l₂ :=
  List.filter_append ..

theorem errorCount_append (l₁ l₂ : List Emission) : errorCount ((l₁ ++ l₂).map Prod.snd) =
    errorCount (l₁.map Prod.snd) + errorCount (l₂.map Prod.snd) := by
  simp [errorCount, List.map_append]

/-- What an emitter is about to add is all it has among what is pending. -/
theorem ofEmitter_of_lookup (hnodup : (pending.map Prod.fst).Nodup)
    (h : pending.lookup emitter = some d) : ofEmitter emitter pending = [(emitter, d)] := by
  induction pending with
  | nil => simp at h
  | cons e rest ih =>
    obtain ⟨owner, d'⟩ := e
    rw [List.map_cons, List.nodup_cons] at hnodup
    by_cases howner : owner = emitter
    · subst howner
      obtain rfl : d' = d := by simpa [List.lookup_cons] using h
      have hrest : ofEmitter owner rest = [] :=
        List.filter_eq_nil_iff.2 fun f hf => by
          simpa using fun heq : f.1 = owner => hnodup.1 (List.mem_map.2 ⟨f, hf, heq⟩)
      rw [ofEmitter, List.filter_cons_of_pos (by simp)]
      exact congrArg _ hrest
    · have hlookup : rest.lookup emitter = some d := by
        rwa [List.lookup_cons, (beq_eq_false_iff_ne).2 (Ne.symm howner)] at h
      rw [ofEmitter, List.filter_cons_of_neg (by simpa using howner)]
      exact ih hnodup.2 hlookup

theorem ofEmitter_filter_self (emitter : Nat) (pending : List Emission) :
    ofEmitter emitter (pending.filter (·.1 != emitter)) = [] := by
  simp [ofEmitter]

theorem ofEmitter_filter_of_ne (h : other ≠ emitter) (pending : List Emission) :
    ofEmitter other (pending.filter (·.1 != emitter)) = ofEmitter other pending := by
  rw [ofEmitter, List.filter_filter]
  refine List.filter_congr fun e _ => ?_
  by_cases he : e.1 = other <;> simp [he, h]

theorem errorCount_perm {l₁ l₂ : List Emission} (h : l₁.Perm l₂) :
    errorCount (l₁.map Prod.snd) = errorCount (l₂.map Prod.snd) :=
  (h.map Prod.snd).countP_eq _

/-- What is pending is what one emitter is about to add, and the rest. -/
theorem perm_pending (hnodup : (pending.map Prod.fst).Nodup)
    (h : pending.lookup emitter = some d) :
    pending.Perm ((emitter, d) :: pending.filter (·.1 != emitter)) := by
  have hsplit := List.filter_append_perm (fun e : Emission => e.1 == emitter) pending
  rw [show pending.filter (fun e => e.1 == emitter) = [(emitter, d)] from
    ofEmitter_of_lookup hnodup h] at hsplit
  exact hsplit.symm

/-- An idle emitter has nothing among what is pending. -/
theorem notMem_of_lookup_eq_none (h : pending.lookup emitter = none) :
    emitter ∉ pending.map Prod.fst := by
  rw [List.lookup_eq_none_iff] at h
  rintro hmem
  obtain ⟨e, he, rfl⟩ := List.mem_map.1 hmem
  simpa using h e he

theorem balanced_empty : Balanced [] {} where
  order _ := rfl
  errors := rfl
  nodup := List.nodup_nil

/-- An emitter begins. -/
theorem Balanced.count (h : Balanced l s) (hs : s.move? (.count emitter d) = some s') :
    Balanced (l ++ [(emitter, d)]) s' := by
  simp only [move?] at hs
  split at hs
  · simp at hs
  rename_i hidle
  obtain rfl := Option.some.inj hs
  refine ⟨fun other => ?_, ?_, ?_⟩
  · rw [ofEmitter_append, ← h.order, ← ofEmitter_append]
    simp [account]
  · have hone : errorCount [d] = if d.severity.isError then 1 else 0 := by
      simp [errorCount, List.countP_cons]
    have herrors := h.errors
    simp only [account, errorCount_append] at herrors ⊢
    rw [List.map_cons, List.map_nil, hone]
    split <;> omega
  · rw [List.map_append, List.map_cons, List.map_nil, ← List.concat_eq_append]
    exact h.nodup.concat (notMem_of_lookup_eq_none hidle)

/-- An emitter adds what it has begun with. -/
theorem Balanced.add (h : Balanced l s) (hs : s.move? (.add emitter) = some s') :
    Balanced l s' := by
  simp only [move?] at hs
  split at hs
  case h_2 => simp at hs
  rename_i d hbusy
  obtain rfl := Option.some.inj hs
  refine ⟨fun other => ?_, ?_, ?_⟩
  · rw [← h.order]
    simp only [account, ofEmitter_append, List.append_assoc]
    by_cases hother : other = emitter
    · subst hother
      rw [ofEmitter_filter_self, ofEmitter_of_lookup h.nodup hbusy]
      simp [ofEmitter]
    · rw [ofEmitter_filter_of_ne hother]
      simp [ofEmitter, Ne.symm hother]
  · rw [← h.errors]
    refine errorCount_perm ?_
    simp only [account, List.append_assoc, List.singleton_append]
    exact ((perm_pending h.nodup hbusy).symm.append_left _).append_left _
  · exact h.nodup.sublist (List.filter_sublist.map _)

/-- Somebody takes everything. -/
theorem Balanced.take (h : Balanced l s) (hs : s.move? .take = some s') : Balanced l s' := by
  obtain rfl := Option.some.inj hs
  have haccount : account { s with held := [], taken := s.taken ++ s.held } = s.account := by
    simp [account]
  exact ⟨haccount ▸ h.order, haccount ▸ h.errors, h.nodup⟩

/-- **What one step keeps.** -/
theorem Balanced.move (h : Balanced l s) (hs : s.move? m = some s') :
    Balanced (l ++ begun [m]) s' := by
  cases m with
  | count emitter d => exact h.count hs
  | add emitter => exact (List.append_nil l).symm ▸ h.add hs
  | take => exact (List.append_nil l).symm ▸ h.take hs

/-- **What a run keeps.** -/
theorem Balanced.moveAll (h : Balanced l s) (hs : s.moveAll? moves = some s') :
    Balanced (l ++ begun moves) s' := by
  induction moves generalizing l s with
  | nil =>
    obtain rfl := Option.some.inj hs
    simpa [begun] using h
  | cons m rest ih =>
    rw [moveAll?_cons] at hs
    obtain ⟨next, hnext, hs⟩ := Option.bind_eq_some_iff.1 hs
    have hcons : begun (m :: rest) = begun [m] ++ begun rest := by
      rw [begun, begun, begun, ← List.filterMap_append, List.singleton_append]
    rw [hcons, ← List.append_assoc]
    exact ih (h.move hnext) hs

/-- Lists in which each emitter has the same are the same up to their order. -/
theorem perm_of_ofEmitter {l₁ l₂ : List Emission}
    (h : ∀ emitter, ofEmitter emitter l₁ = ofEmitter emitter l₂) : l₁.Perm l₂ := by
  refine List.perm_iff_count.2 fun e => ?_
  have hcount : ∀ l : List Emission, (ofEmitter e.1 l).count e = l.count e :=
    fun l => List.count_filter (by simp)
  rw [← hcount l₁, ← hcount l₂, h]

theorem Balanced.accounted (h : Balanced (begun moves) s) : Accounted moves s := by
  have hsum : errorCount ((s.taken ++ s.held).map Prod.snd) +
      errorCount (s.pending.map Prod.snd) = s.errors := by
    rw [← errorCount_append, ← h.errors, account]
  refine ⟨perm_of_ofEmitter h.order, h.order, by omega, fun hpending => ?_⟩
  rw [hpending] at hsum
  exact hsum

/-! ### Interleavings -/

/-- The emitter whose step it is. -/
def Move.emitter? : Move → Option Nat
  | count emitter _ => some emitter
  | add emitter => some emitter
  | take => none

/-- The steps of an emitter. -/
def movesOf (emitter : Nat) (moves : List Move) : List Move :=
  moves.filter (·.emitter? = some emitter)

/-- Whether an emitter begins and adds by turns, `busy` saying whether it has begun. -/
def isByTurns : Bool → List Move → Bool
  | _, [] => true
  | busy, .count .. :: rest => !busy && isByTurns true rest
  | busy, .add _ :: rest => busy && isByTurns false rest
  | busy, .take :: rest => isByTurns busy rest

/-- Steps of several users in any order that each emitter finds its own steps in. -/
def IsInterleaving (moves : List Move) : Prop :=
  ∀ emitter, isByTurns false (movesOf emitter moves) = true

theorem movesOf_cons_self (h : m.emitter? = some emitter) (moves : List Move) :
    movesOf emitter (m :: moves) = m :: movesOf emitter moves :=
  List.filter_cons_of_pos (by simpa using h)

theorem movesOf_cons_of_ne (h : m.emitter? ≠ some emitter) (moves : List Move) :
    movesOf emitter (m :: moves) = movesOf emitter moves :=
  List.filter_cons_of_neg (by simpa using h)

theorem lookup_filter_of_ne (h : other ≠ emitter) (pending : List Emission) :
    (pending.filter (·.1 != emitter)).lookup other = pending.lookup other := by
  induction pending with
  | nil => rfl
  | cons e rest ih =>
    obtain ⟨owner, d⟩ := e
    by_cases howner : owner = emitter
    · subst howner
      rw [List.filter_cons_of_neg (by simp), ih, List.lookup_cons, (beq_eq_false_iff_ne).2 h]
    · rw [List.filter_cons_of_pos (by simpa using howner), List.lookup_cons, List.lookup_cons, ih]

theorem lookup_filter_eq_none (emitter : Nat) (pending : List Emission) :
    (pending.filter (·.1 != emitter)).lookup emitter = none := by
  rw [List.lookup_eq_none_iff]
  intro e he
  have hne : e.1 ≠ emitter := by simpa using (List.mem_filter.1 he).2
  simpa using Ne.symm hne

/-- After a step an emitter is busy if it has begun, idle if it has added, and as it was if the step
was not its own. -/
theorem isSome_pendingOf?_move (hs : s.move? m = some s') (emitter : Nat) (moves : List Move) :
    isByTurns (s.pendingOf? emitter).isSome (movesOf emitter (m :: moves)) =
      isByTurns (s'.pendingOf? emitter).isSome (movesOf emitter moves) := by
  cases m with
  | take =>
    obtain rfl := Option.some.inj hs
    rw [movesOf_cons_of_ne (by simp [Move.emitter?])]
    rfl
  | count owner d =>
    rcases hidle : s.pendingOf? owner with _ | d'
    · simp only [move?, hidle] at hs
      obtain rfl := Option.some.inj hs
      by_cases hemitter : emitter = owner
      · subst hemitter
        rw [movesOf_cons_self rfl, hidle]
        simp [isByTurns, pendingOf?, List.lookup_append]
      · rw [movesOf_cons_of_ne (by simpa [Move.emitter?] using Ne.symm hemitter)]
        simp [pendingOf?, List.lookup_append, List.lookup_cons, (beq_eq_false_iff_ne).2 hemitter]
    · simp [move?, hidle] at hs
  | add owner =>
    rcases hbusy : s.pendingOf? owner with _ | d
    · simp [move?, hbusy] at hs
    · simp only [move?, hbusy] at hs
      obtain rfl := Option.some.inj hs
      by_cases hemitter : emitter = owner
      · subst hemitter
        rw [movesOf_cons_self rfl, hbusy]
        simp [isByTurns, pendingOf?, lookup_filter_eq_none]
      · rw [movesOf_cons_of_ne (by simpa [Move.emitter?] using Ne.symm hemitter)]
        simp only [pendingOf?, lookup_filter_of_ne hemitter]

/-- A step that is not possible is out of turn. -/
theorem exists_not_isByTurns (hs : s.move? m = none) (moves : List Move) :
    ∃ emitter, isByTurns (s.pendingOf? emitter).isSome (movesOf emitter (m :: moves)) = false := by
  cases m with
  | take => simp [move?] at hs
  | count owner d =>
    refine ⟨owner, ?_⟩
    rw [movesOf_cons_self rfl]
    rcases hbusy : s.pendingOf? owner with _ | d'
    · simp [move?, hbusy] at hs
    · simp [isByTurns]
  | add owner =>
    refine ⟨owner, ?_⟩
    rw [movesOf_cons_self rfl]
    rcases hidle : s.pendingOf? owner with _ | d
    · simp [isByTurns]
    · simp [move?, hidle] at hs

/-- Steps can follow one another if each emitter begins when it is idle and adds when it is busy. -/
theorem isSome_moveAll?_iff (s : SharedSink) (moves : List Move) :
    (s.moveAll? moves).isSome = true ↔
      ∀ emitter, isByTurns (s.pendingOf? emitter).isSome (movesOf emitter moves) = true := by
  induction moves generalizing s with
  | nil => simp [movesOf, isByTurns]
  | cons m rest ih =>
    rw [moveAll?_cons]
    rcases hs : s.move? m with _ | s'
    · obtain ⟨emitter, hturn⟩ := exists_not_isByTurns hs rest
      simp only [Option.bind_none, Option.isSome_none, Bool.false_eq_true, false_iff]
      intro hturns
      rw [hturns emitter] at hturn
      exact Bool.noConfusion hturn
    · rw [Option.bind_some, ih]
      exact forall_congr' fun emitter => by rw [isSome_pendingOf?_move hs]

/-- **The runs are the interleavings.** -/
theorem exists_moveAll?_iff (moves : List Move) :
    (∃ s, moveAll? {} moves = some s) ↔ IsInterleaving moves := by
  rw [← Option.isSome_iff_exists, isSome_moveAll?_iff]
  rfl

/-- **The accounts of a shared sink** after any interleaving. -/
theorem accounted_moveAll (h : moveAll? {} moves = some s) : Accounted moves s :=
  (balanced_empty.moveAll h).accounted

end SharedSink

namespace Sink

/-- **The accounts of sinks.** In every history of one user everything is taken or held, in the
order of emission, looking changes nothing, and the count of errors is that of all that was emitted,
so there never cease to have been errors. Steps of several users can follow one another exactly if
each emitter finds its own steps in order; then nothing is lost or there twice, every emitter keeps
its order, and the count is at least that of the errors that were taken or are held, and equal to it
whenever nobody is about to add a diagnostic. -/
theorem accounting :
    (∀ uses : List Use, Accounted uses (empty.useAll uses).1 (empty.useAll uses).2) ∧
      (∀ before after : List Use, empty.useAll (before ++ .look :: after) =
        ((empty.useAll before).1 ++ (.look, (empty.useAll before).2.entries) ::
          ((empty.useAll before).2.useAll after).1, ((empty.useAll before).2.useAll after).2)) ∧
      (∀ before after : List Use, (empty.useAll before).2.hasErrors = true →
        (empty.useAll (before ++ after)).2.hasErrors = true) ∧
      ∀ moves : List SharedSink.Move,
        ((∃ s, SharedSink.moveAll? {} moves = some s) ↔ SharedSink.IsInterleaving moves) ∧
          ∀ s, SharedSink.moveAll? {} moves = some s → SharedSink.Accounted moves s := by
  refine ⟨accounted_useAll, useAll_look empty, fun before after h => ?_, fun moves => ?_⟩
  · rw [useAll_append]
    exact hasErrors_useAll h after
  · exact ⟨SharedSink.exists_moveAll?_iff moves, fun s => SharedSink.accounted_moveAll⟩

/-- Two emitters and a taker that comes between the two steps of each. -/
theorem accounting_interrupted :
    let first : Diagnostic := .error "a"
    let second : Diagnostic := .warning "b"
    let third : Diagnostic := .error "c"
    let moves : List SharedSink.Move :=
      [.count 0 first, .count 1 second, .add 1, .take, .count 1 third, .add 0, .take, .add 1]
    let s : SharedSink :=
      ⟨[(1, third)], 2, [], [(1, second), (0, first)]⟩
    SharedSink.moveAll? {} moves = some s ∧ SharedSink.IsInterleaving moves ∧
      SharedSink.Accounted moves s ∧ (empty.useAll [.emit first, .takeAll]).2.hasErrors = true ∧
      (empty.useAll ([.emit first, .takeAll] ++ [.look])).2.hasErrors = true := by
  intro first second third moves s
  have hmoves : SharedSink.moveAll? {} moves = some s := by decide
  have herrors : (empty.useAll [.emit first, .takeAll]).2.hasErrors = true := by decide
  exact ⟨hmoves, (accounting.2.2.2 moves).1.1 ⟨s, hmoves⟩, (accounting.2.2.2 moves).2 s hmoves,
    herrors, accounting.2.2.1 _ _ herrors⟩

end Sink

end ModuleBuild
