import ModuleBuild.Lowering.Workers
import ModuleBuild.Proofs.Lowering.InTurn

/-!
# Workers in any order

Workers read the flags of earlier units one by one while other workers set them, so what a worker
has counted is no picture of any one moment. It is still never too much: a flag is set only for a
unit that has failed, and it stays set. Hence a worker that leaves its unit alone is right to do so,
whatever the order of the steps.

## Main definitions

* `Batch.Settled` — attempts whose outcomes are fixed
* `Batch.after` — the state after the attempts for some units
* `Worker.Sound`, `Workers.Sound` — the invariant of one worker and of all of them
* `Worker.remaining` — how many steps a worker may still need

## Main results

* `Workers.Sound.step` — what one step keeps
* `Workers.Sound.follow` — what the steps of a schedule keep
* `Workers.follow_unitByUnit` — after a schedule that is completed unit by unit, every worker has
  come to its end
-/

namespace ModuleBuild

/-! ### Attempts with fixed outcomes -/

namespace Batch

variable {σ : Type}

/-- Attempts whose outcomes are fixed beforehand, whatever they do to the files and the tools. -/
structure Settled (batch : Batch σ) (outcomes : List UnitOutcome) : Prop where
  /-- There is one outcome for each attempt. -/
  length_eq : batch.length = outcomes.length
  /-- An attempt that is made does not leave its unit alone. -/
  not_skipped : .skipped ∉ outcomes
  /-- The outcome is that of the unit, and nothing is emitted. -/
  run : ∀ {unit : Nat} {attempt : Step σ UnitOutcome} {outcome : UnitOutcome},
    batch[unit]? = some attempt → outcomes[unit]? = some outcome →
      ∀ st, (attempt.run st).1 = .ok outcome ∧ (attempt.run st).2.sink = st.sink

/-- The state after the attempts for some units, one after another. -/
def after (batch : Batch σ) (st : BuildState σ) (tried : List Nat) : BuildState σ :=
  tried.foldl (fun st unit => (batch[unit]?.map fun attempt => (attempt.run st).2).getD st) st

@[simp] theorem after_nil (batch : Batch σ) (st : BuildState σ) : batch.after st [] = st := rfl

theorem after_concat {batch : Batch σ} {unit : Nat} {attempt : Step σ UnitOutcome}
    (h : batch[unit]? = some attempt) (st : BuildState σ) (tried : List Nat) :
    batch.after st (tried ++ [unit]) = (attempt.run (batch.after st tried)).2 := by
  simp [after, h]

/-- Attempts with fixed outcomes emit nothing. -/
theorem Settled.sink_after {batch : Batch σ} {outcomes : List UnitOutcome}
    (hb : batch.Settled outcomes) (st : BuildState σ) (tried : List Nat) :
    (batch.after st tried).sink = st.sink := by
  induction tried generalizing st with
  | nil => rfl
  | cons unit rest ih =>
    rw [after, List.foldl_cons]
    refine (ih _).trans ?_
    rcases ha : batch[unit]? with _ | attempt
    · rfl
    · have hu : unit < outcomes.length := hb.length_eq ▸ (List.getElem?_eq_some_iff.1 ha).1
      exact (hb.run ha (List.getElem?_eq_getElem hu) st).2

end Batch

/-! ### One worker -/

namespace Worker

/-- The outcome that a worker knows. -/
def known? : Worker → Option UnitOutcome
  | returned outcome => some outcome
  | flagged outcome => some outcome
  | finished outcome => some outcome
  | _ => none

/-- Whether a worker has made its attempt. -/
def HasTried (w : Worker) : Prop := ∃ outcome, w.known? = some outcome ∧ outcome ≠ .skipped

/-- A worker has counted no more failures than there are, and leaves its unit alone only behind the
failure that is one too many. -/
structure Sound (ceiling : Nat) (outcomes : List UnitOutcome) (unit : Nat) (w : Worker) : Prop where
  /-- The count is no greater than the number of failures among the units that were read. -/
  counted : ∀ {next seen}, w = counting next seen →
    next ≤ unit ∧ seen ≤ failuresBefore outcomes next
  /-- A known outcome is that of the unit, unless the unit was left alone for good reason. -/
  known : ∀ {outcome}, w.known? = some outcome →
    outcomes[unit]? = some outcome ∨
      (outcome = .skipped ∧ ceiling < failuresBefore outcomes unit)

/-- How many steps the worker of a unit may still need. -/
def remaining (unit : Nat) : Worker → Nat
  | waiting => Workers.stepsFor unit
  | counting next _ => unit - next + 4
  | ready => 3
  | returned _ => 2
  | flagged _ => 1
  | finished _ => 0

variable {ceiling unit next seen : Nat} {outcomes : List UnitOutcome} {w : Worker}

/-- A worker that neither counts nor knows an outcome is sound. -/
theorem Sound.of_idle (hc : ∀ next seen, w ≠ counting next seen) (hk : w.known? = none) :
    w.Sound ceiling outcomes unit where
  counted h := absurd h (hc _ _)
  known h := by simp [hk] at h

/-- A worker keeps its outcome. -/
theorem Sound.of_known {v : Worker} (h : w.Sound ceiling outcomes unit)
    (hc : ∀ next seen, v ≠ counting next seen) (hk : v.known? = w.known?) :
    v.Sound ceiling outcomes unit where
  counted h := absurd h (hc _ _)
  known hv := h.known (hk ▸ hv)

theorem eq_finished_of_remaining (h : w.remaining unit = 0) : ∃ outcome, w = finished outcome := by
  cases w with
  | finished outcome => exact ⟨outcome, rfl⟩
  | waiting => simp [remaining, Workers.stepsFor] at h
  | counting next seen => simp [remaining] at h
  | ready => simp [remaining] at h
  | returned outcome => simp [remaining] at h
  | flagged outcome => simp [remaining] at h

end Worker

/-! ### All workers -/

namespace Workers

/-- How many steps the worker of a unit may still need. -/
def remaining (w : Workers) (unit : Nat) : Nat :=
  (w.units[unit]?.map (Worker.remaining unit)).getD 0

/-- The workers are sound, flags are set only for units that fail, and `tried` lists without
repetition the units whose attempts were made. -/
structure Sound (ceiling : Nat) (outcomes : List UnitOutcome) (w : Workers) (tried : List Nat) :
    Prop where
  /-- There is a worker for each unit. -/
  size_units : w.units.size = outcomes.length
  /-- A unit that is known to have failed fails. -/
  flagged : ∀ {unit : Nat}, w.isFlagged unit = true →
    ∃ outcome, outcomes[unit]? = some outcome ∧ outcome.isFailed = true
  /-- Every worker is sound. -/
  worker : ∀ {unit : Nat} {worker : Worker}, w.units[unit]? = some worker →
    worker.Sound ceiling outcomes unit
  /-- No attempt is made twice. -/
  nodup : tried.Nodup
  /-- Exactly the units were tried whose workers say so. -/
  mem_tried : ∀ unit, unit ∈ tried ↔ ∃ worker, w.units[unit]? = some worker ∧ worker.HasTried

variable {σ : Type} {ceiling unit next seen : Nat} {outcomes : List UnitOutcome} {w : Workers}
  {tried : List Nat} {old new : Worker} {outcome : UnitOutcome}

theorem lt_size_of_getElem? {l : Array Worker} (h : l[unit]? = some old) : unit < l.size :=
  (Array.getElem?_eq_some_iff.1 h).1

theorem units_move (hold : w.units[unit]? = some old) (other : Nat) :
    (w.move unit new).units[other]? = if other = unit then some new else w.units[other]? := by
  by_cases h : other = unit
  · subst h
    rw [if_pos rfl, units_move_self (lt_size_of_getElem? hold)]
  · rw [if_neg h, units_move_of_ne w (Ne.symm h)]

theorem remaining_move (hold : w.units[unit]? = some old) (other : Nat) :
    (w.move unit new).remaining other =
      if other = unit then new.remaining unit else w.remaining other := by
  unfold remaining
  rw [units_move hold]
  by_cases h : other = unit
  · subst h
    simp
  · simp [h]

/-- Before the first step nothing is known. -/
theorem sound_start (ceiling : Nat) (outcomes : List UnitOutcome) :
    (start outcomes.length).Sound ceiling outcomes [] where
  size_units := by simp [start]
  flagged {unit} h := by
    by_cases hu : unit < outcomes.length <;>
      simp [start, isFlagged, hu] at h
  worker h := by
    obtain ⟨-, rfl⟩ := by simpa [start, Array.getElem?_replicate] using h
    exact .of_idle (by simp) rfl
  nodup := List.nodup_nil
  mem_tried unit := by
    simp [start, Array.getElem?_replicate, Worker.HasTried, Worker.known?]

/-- A worker moves without making an attempt. -/
theorem Sound.move (h : w.Sound ceiling outcomes tried) (hold : w.units[unit]? = some old)
    (hnew : new.Sound ceiling outcomes unit) (htried : new.HasTried ↔ old.HasTried) :
    (w.move unit new).Sound ceiling outcomes tried where
  size_units := by rw [size_units_move, h.size_units]
  flagged := h.flagged
  worker {other} worker hw := by
    rw [units_move hold] at hw
    split at hw
    · rename_i he
      obtain rfl := Option.some.inj hw
      exact he ▸ hnew
    · exact h.worker hw
  nodup := h.nodup
  mem_tried other := by
    rw [h.mem_tried, units_move hold]
    by_cases he : other = unit
    · subst he
      simp [hold, htried]
    · simp [he]

/-- A worker makes its attempt, which had not been made before. -/
theorem Sound.attempt (h : w.Sound ceiling outcomes tried) (hold : w.units[unit]? = some .ready)
    (ho : outcomes[unit]? = some outcome) (hs : outcome ≠ .skipped) :
    (w.move unit (.returned outcome)).Sound ceiling outcomes (tried ++ [unit]) where
  size_units := by rw [size_units_move, h.size_units]
  flagged := h.flagged
  worker {other} worker hw := by
    rw [units_move hold] at hw
    split at hw
    · rename_i he
      obtain rfl := Option.some.inj hw
      exact ⟨by simp, fun hk => .inl (he ▸ Option.some.inj hk ▸ ho)⟩
    · exact h.worker hw
  nodup := by
    have hn : unit ∉ tried := by
      rw [h.mem_tried]
      rintro ⟨worker, hw, htried⟩
      obtain rfl : Worker.ready = worker := Option.some.inj (hold.symm.trans hw)
      simp [Worker.HasTried, Worker.known?] at htried
    refine List.nodup_append.2 ⟨h.nodup, by simp, fun a ha c hc => ?_⟩
    obtain rfl := List.mem_singleton.1 hc
    exact fun he => hn (he ▸ ha)
  mem_tried other := by
    rw [List.mem_append, List.mem_singleton, h.mem_tried, units_move hold]
    by_cases he : other = unit
    · subst he
      simp [Worker.HasTried, Worker.known?, hs]
    · simp [he]

/-- Flags are set for failures only. -/
theorem isFlagged_flag {other : Nat} (h : (w.flag unit outcome).isFlagged other = true) :
    w.isFlagged other = true ∨ (other = unit ∧ outcome.isFailed = true) := by
  unfold flag at h
  split at h
  · rename_i hf
    by_cases he : unit = other
    · exact .inr ⟨he.symm, hf⟩
    · left
      simpa [isFlagged, Array.getElem?_setIfInBounds, he] using h
  · exact .inl h

/-- A worker sets the flag of its unit if that has failed. -/
theorem Sound.flag (h : w.Sound ceiling outcomes tried)
    (hold : w.units[unit]? = some (.returned outcome)) :
    (w.flag unit outcome).Sound ceiling outcomes tried where
  size_units := by rw [units_flag, h.size_units]
  flagged hf := by
    rcases isFlagged_flag hf with hf | ⟨rfl, hfailed⟩
    · exact h.flagged hf
    · rcases (h.worker hold).known rfl with ho | ⟨rfl, -⟩
      · exact ⟨outcome, ho, hfailed⟩
      · simp [UnitOutcome.isFailed] at hfailed
  worker hw := h.worker (by rwa [units_flag] at hw)
  nodup := h.nodup
  mem_tried other := by rw [units_flag, h.mem_tried]

/-- What a worker has counted stays below the true number when it reads one more flag, since that
flag is set for a failure only. -/
theorem Sound.count (h : w.Sound ceiling outcomes tried)
    (hold : w.units[unit]? = some (.counting next seen)) :
    (w.count ceiling unit next seen).Sound ceiling outcomes unit := by
  obtain ⟨hnext, hseen⟩ := (h.worker hold).counted rfl
  unfold Workers.count
  split
  · rename_i hlt
    refine ⟨fun he => ?_, fun hk => by simp [Worker.known?] at hk⟩
    obtain ⟨rfl, rfl⟩ := Worker.counting.inj he
    refine ⟨hlt, ?_⟩
    split
    · rename_i hf
      obtain ⟨outcome, ho, hfailed⟩ := h.flagged hf
      rw [failuresBefore_succ ho, Batch.countFailure, if_pos hfailed]
      exact Nat.succ_le_succ hseen
    · exact Nat.le_trans hseen (failuresBefore_mono outcomes (Nat.le_succ next))
  · rename_i hge
    obtain rfl : next = unit := Nat.le_antisymm hnext (Nat.le_of_not_lt hge)
    split
    · rename_i hc
      exact ⟨by simp, fun hk => .inr ⟨(Option.some.inj hk).symm, Nat.lt_of_lt_of_le hc hseen⟩⟩
    · exact .of_idle (by simp) rfl

theorem not_hasTried_count : ¬ (w.count ceiling unit next seen).HasTried := by
  unfold Workers.count
  split
  · simp [Worker.HasTried, Worker.known?]
  · split <;> simp [Worker.HasTried, Worker.known?]

theorem remaining_count_le :
    (w.count ceiling unit next seen).remaining unit ≤
      (Worker.counting next seen).remaining unit - 1 := by
  unfold Workers.count
  split
  · simp only [Worker.remaining]
    omega
  · split <;> simp [Worker.remaining]

/-! ### One step -/

variable {batch : Batch σ} {st : BuildState σ}

/-- What a step of the worker of `unit` keeps, and how far it brings that worker. -/
structure Stepped (ceiling : Nat) (outcomes : List UnitOutcome) (unit : Nat) (w w' : Workers)
    (tried : List Nat) : Prop where
  /-- The workers stay sound. -/
  sound : w'.Sound ceiling outcomes tried
  /-- The worker of the unit needs one step less, and no other needs more. -/
  remaining_le : ∀ other, w'.remaining other ≤ w.remaining other - if other = unit then 1 else 0

/-- A worker that moves without making an attempt. -/
theorem Sound.stepped_move (h : w.Sound ceiling outcomes tried)
    (hold : w.units[unit]? = some old) (hnew : new.Sound ceiling outcomes unit)
    (htried : new.HasTried ↔ old.HasTried) (hless : new.remaining unit ≤ old.remaining unit - 1) :
    Stepped ceiling outcomes unit w (w.move unit new) tried where
  sound := h.move hold hnew htried
  remaining_le other := by
    rw [remaining_move hold]
    by_cases he : other = unit
    · subst he
      simpa [remaining, hold] using hless
    · simp [he]

/-- A worker that has nothing to do stays where it is. -/
theorem Sound.stepped_self (h : w.Sound ceiling outcomes tried) (hu : w.remaining unit = 0) :
    Stepped ceiling outcomes unit w w tried where
  sound := h
  remaining_le other := by
    by_cases he : other = unit
    · subst he
      simp [hu]
    · simp [he]

theorem remaining_flag (other : Nat) :
    (w.flag unit outcome).remaining other = w.remaining other := by
  rw [remaining, units_flag, remaining]

/-- **What one step keeps.** At most it makes one more attempt. -/
theorem Sound.step (hb : batch.Settled outcomes) (h : w.Sound ceiling outcomes tried)
    (st : BuildState σ) (unit : Nat) :
    ∃ w' tried', (w.step ceiling batch.toArray unit).run (batch.after st tried) =
        (.ok w', batch.after st tried') ∧
      Stepped ceiling outcomes unit w w' tried' := by
  unfold Workers.step
  rcases hold : w.units[unit]? with _ | old
  · exact ⟨w, tried, rfl, h.stepped_self (by simp [remaining, hold])⟩
  cases old with
  | waiting =>
    refine ⟨_, tried, rfl, h.stepped_move hold ⟨?_, by simp [Worker.known?]⟩ ?_ ?_⟩
    · intro next seen he
      obtain ⟨rfl, rfl⟩ := Worker.counting.inj he
      exact ⟨Nat.zero_le _, Nat.zero_le _⟩
    · simp [Worker.HasTried, Worker.known?]
    · simp [Worker.remaining, stepsFor]
  | counting next seen =>
    refine ⟨_, tried, rfl, h.stepped_move hold (h.count hold) ?_ remaining_count_le⟩
    exact iff_of_false not_hasTried_count (by simp [Worker.HasTried, Worker.known?])
  | ready =>
    have hu : unit < outcomes.length := h.size_units ▸ lt_size_of_getElem? hold
    have ho : outcomes[unit]? = some outcomes[unit] := List.getElem?_eq_getElem hu
    have hu' : unit < batch.length := hb.length_eq ▸ hu
    have ha : batch[unit]? = some batch[unit] := List.getElem?_eq_getElem hu'
    have hrun : batch[unit].run (batch.after st tried) =
        (.ok outcomes[unit], batch.after st (tried ++ [unit])) :=
      Prod.ext (hb.run ha ho _).1 (Batch.after_concat ha st tried).symm
    refine ⟨w.move unit (.returned outcomes[unit]), tried ++ [unit], ?_, ?_, fun other => ?_⟩
    · simp only [List.getElem?_toArray, ha]
      rw [Step.run_bind, hrun]
      rfl
    · exact h.attempt hold ho fun hs => hb.not_skipped (hs ▸ List.getElem_mem hu)
    · rw [remaining_move hold]
      by_cases he : other = unit
      · subst he
        simp [remaining, hold, Worker.remaining]
      · simp [he]
  | returned outcome =>
    have hold' : (w.flag unit outcome).units[unit]? = some (.returned outcome) := by
      rw [units_flag, hold]
    have hs : Stepped ceiling outcomes unit (w.flag unit outcome)
        ((w.flag unit outcome).move unit (.flagged outcome)) tried :=
      (h.flag hold).stepped_move hold' ((h.worker hold).of_known (by simp) rfl) Iff.rfl
        (Nat.le_refl _)
    exact ⟨_, tried, rfl, hs.sound, fun other => by
      simpa only [remaining_flag] using hs.remaining_le other⟩
  | flagged outcome =>
    exact ⟨_, tried, rfl, h.stepped_move hold ((h.worker hold).of_known (by simp) rfl) Iff.rfl
      (Nat.le_refl _)⟩
  | finished outcome =>
    exact ⟨w, tried, rfl, h.stepped_self (by simp [remaining, hold, Worker.remaining])⟩

/-! ### The steps of a schedule -/

/-- **What a schedule keeps.** The worker of each unit has come one step further for each time that
the schedule names it. -/
theorem Sound.follow (hb : batch.Settled outcomes) (h : w.Sound ceiling outcomes tried)
    (st : BuildState σ) (schedule : List Nat) :
    ∃ w' tried', (follow ceiling batch.toArray schedule w).run (batch.after st tried) =
        (.ok w', batch.after st tried') ∧
      w'.Sound ceiling outcomes tried' ∧
      ∀ unit, w'.remaining unit ≤ w.remaining unit - schedule.count unit := by
  induction schedule generalizing w tried with
  | nil => exact ⟨w, tried, rfl, h, fun unit => by simp⟩
  | cons unit rest ih =>
    obtain ⟨w₁, tried₁, hstep, hs⟩ := h.step hb st unit
    obtain ⟨w₂, tried₂, hrest, hsound, hremaining⟩ := ih hs.sound
    refine ⟨w₂, tried₂, ?_, hsound, fun other => ?_⟩
    · rw [Workers.follow, Step.run_bind, hstep]
      exact hrest
    · have hfirst := hs.remaining_le other
      have hthen := hremaining other
      rw [List.count_cons]
      by_cases he : other = unit
      · subst he
        simp only [if_true, beq_self_eq_true] at hfirst ⊢
        omega
      · have hne : (unit == other) = false := by simpa using Ne.symm he
        simp only [if_neg he, hne, Bool.false_eq_true, if_false] at hfirst ⊢
        omega

theorem stepsFor_le_count_unitByUnit {total : Nat} (h : unit < total) :
    stepsFor unit ≤ (unitByUnit total).count unit := by
  induction total with
  | zero => omega
  | succ total ih =>
    unfold unitByUnit at ih ⊢
    rw [List.range_succ, List.flatMap_append, List.count_append]
    by_cases he : unit = total
    · subst he
      simp
    · exact Nat.le_trans (ih (by omega)) (Nat.le_add_right _ _)

/-- **Every worker comes to its end** under a schedule that is completed unit by unit. -/
theorem follow_unitByUnit (hb : batch.Settled outcomes) (ceiling : Nat) (schedule : List Nat)
    (st : BuildState σ) :
    ∃ w tried, (Workers.follow ceiling batch.toArray (schedule ++ unitByUnit batch.length)
        (start batch.length)).run st = (.ok w, batch.after st tried) ∧
      w.Sound ceiling outcomes tried ∧
      ∀ unit < outcomes.length, ∃ outcome, w.units[unit]? = some (.finished outcome) := by
  rw [hb.length_eq]
  obtain ⟨w, tried, hrun, hsound, hremaining⟩ :=
    (sound_start ceiling outcomes).follow hb st (schedule ++ unitByUnit outcomes.length)
  refine ⟨w, tried, hrun, hsound, fun unit hu => ?_⟩
  have hu' : unit < w.units.size := hsound.size_units ▸ hu
  have hw : w.units[unit]? = some w.units[unit] := Array.getElem?_eq_getElem hu'
  have hzero : w.remaining unit = 0 := by
    have hle := hremaining unit
    have hcount := stepsFor_le_count_unitByUnit hu
    have hstart : (start outcomes.length).remaining unit = stepsFor unit := by
      simp [remaining, start, hu, Worker.remaining]
    rw [hstart, List.count_append] at hle
    omega
  rw [remaining, hw] at hzero
  obtain ⟨outcome, ho⟩ := Worker.eq_finished_of_remaining hzero
  exact ⟨outcome, by rw [hw, ho]⟩

end Workers

end ModuleBuild
