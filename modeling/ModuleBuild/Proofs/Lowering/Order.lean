import ModuleBuild.Build.Lowering
import ModuleBuild.Proofs.Lowering.Interleaving

/-!
# Shared work is work in some order

The attempts of a batch may hang on one another through the files and the tools, so what workers
find may depend on the order of their steps. But an attempt is one step of one worker. Hence,
whatever the schedule, the attempts are made one after another in some order, none of them twice,
and a worker knows of its own unit what its own attempt has come to.

Nothing is assumed of the attempts but that each one ends with an outcome.

## Main definitions

* `Workers.Ordered` — the attempts that workers have made so far, in order
* `Batch.Recorded` — the attempts that were made at a batch, and the outcomes recorded of it

## Main results

* `Workers.Ordered.step`, `Workers.Ordered.follow` — what a step and a schedule keep
* `Builder.run_runBatch_recorded` — a batch as a builder carries it out, shared or in turn
-/

namespace ModuleBuild

namespace Batch

variable {σ : Type} {batch : Batch σ} {st st' st'' : BuildState σ} {outcomes : List UnitOutcome}

/-- One more attempt at the end of a trail. -/
theorem Trail.concat {attempt : Step σ UnitOutcome} {outcome : UnitOutcome}
    (h : Trail batch st outcomes st') (hlast : attempt.run st' = (.ok outcome, st'')) :
    Trail (batch ++ [attempt]) st (outcomes ++ [outcome]) st'' := by
  induction h with
  | nil st => exact .cons hlast (.nil st'')
  | cons first others ih => exact .cons first (ih hlast)

/-- Each outcome of a trail is that of the attempt in its place. -/
theorem Trail.made (h : Trail batch st outcomes st') : ∀ {unit : Nat} {outcome : UnitOutcome},
    outcomes[unit]? = some outcome →
      ∃ attempt st₁ st₂, batch[unit]? = some attempt ∧ attempt.run st₁ = (.ok outcome, st₂) := by
  induction h with
  | nil st => intro unit outcome ho; simp at ho
  | @cons attempt rest st st₁ st' first outcomes hfirst hothers ih =>
    intro unit outcome ho
    cases unit with
    | zero =>
      obtain rfl := Option.some.inj ho
      exact ⟨attempt, st, st₁, rfl, hfirst⟩
    | succ unit => exact ih ho

end Batch

namespace Workers

variable {σ : Type} {batch : Batch σ} {ceiling unit : Nat} {w : Workers}
  {tried : List (Nat × UnitOutcome)} {st st' : BuildState σ} {old new : Worker}

/-- The attempts that were made since the state `st`, in order: the units, each with the outcome of
its attempt. -/
structure Ordered (batch : Batch σ) (st : BuildState σ) (w : Workers)
    (tried : List (Nat × UnitOutcome)) (st' : BuildState σ) : Prop where
  /-- They were made one after another. -/
  trail : Batch.Trail (tried.filterMap fun e => batch[e.1]?) st (tried.map Prod.snd) st'
  /-- None was made twice. -/
  nodup : (tried.map Prod.fst).Nodup
  /-- An outcome is that of an attempt at its unit. -/
  made : ∀ e ∈ tried, ∃ attempt st₁ st₂, batch[e.1]? = some attempt ∧
    attempt.run st₁ = (.ok e.2, st₂)
  /-- The worker of a unit that was tried knows the outcome. -/
  told : ∀ e ∈ tried, ∃ worker, w.units[e.1]? = some worker ∧ worker.known? = some e.2
  /-- What a worker knows is the outcome of its attempt, unless it has left its unit alone. -/
  known : ∀ {unit worker outcome}, w.units[unit]? = some worker → worker.known? = some outcome →
    outcome = .skipped ∨ (unit, outcome) ∈ tried

/-- Before the first step no attempt was made. -/
theorem ordered_start (batch : Batch σ) (st : BuildState σ) :
    (start batch.length).Ordered batch st [] st where
  trail := .nil st
  nodup := List.nodup_nil
  made := by simp
  told := by simp
  known hw hk := by
    obtain ⟨-, rfl⟩ := by simpa [start, Array.getElem?_replicate] using hw
    simp [Worker.known?] at hk

/-- A worker moves without making an attempt. It learns nothing but that it leaves its unit
alone. -/
theorem Ordered.move (h : w.Ordered batch st tried st') (hold : w.units[unit]? = some old)
    (hkeeps : ∀ outcome, old.known? = some outcome → new.known? = some outcome)
    (hlearns : ∀ outcome, new.known? = some outcome →
      outcome = .skipped ∨ old.known? = some outcome) :
    (w.move unit new).Ordered batch st tried st' where
  trail := h.trail
  nodup := h.nodup
  made := h.made
  told e he := by
    obtain ⟨worker, hw, hk⟩ := h.told e he
    rw [units_move hold]
    by_cases heq : e.1 = unit
    · obtain rfl : old = worker := Option.some.inj (hold.symm.trans (heq ▸ hw))
      exact ⟨new, if_pos heq, hkeeps _ hk⟩
    · exact ⟨worker, by rw [if_neg heq, hw], hk⟩
  known {other worker outcome} hw hk := by
    rw [units_move hold] at hw
    split at hw
    · rename_i heq
      obtain rfl := Option.some.inj hw
      rcases hlearns outcome hk with hs | hk'
      · exact .inl hs
      · exact h.known (heq ▸ hold) hk'
    · exact h.known hw hk

/-- A worker makes its attempt, which had not been made before. -/
theorem Ordered.attempt {attempt : Step σ UnitOutcome} {outcome : UnitOutcome}
    {st'' : BuildState σ} (h : w.Ordered batch st tried st')
    (hold : w.units[unit]? = some .ready) (ha : batch[unit]? = some attempt)
    (hrun : attempt.run st' = (.ok outcome, st'')) :
    (w.move unit (.returned outcome)).Ordered batch st (tried ++ [(unit, outcome)]) st'' where
  trail := by
    rw [List.filterMap_append, List.map_append]
    simpa [ha] using h.trail.concat hrun
  nodup := by
    have hnot : unit ∉ tried.map Prod.fst := by
      intro hmem
      obtain ⟨e, he, rfl⟩ := List.mem_map.1 hmem
      obtain ⟨worker, hw, hk⟩ := h.told e he
      obtain rfl : Worker.ready = worker := Option.some.inj (hold.symm.trans hw)
      simp [Worker.known?] at hk
    rw [List.map_append, List.map_cons, List.map_nil, List.nodup_append]
    refine ⟨h.nodup, by simp, fun a hmem c hc => ?_⟩
    obtain rfl := List.mem_singleton.1 hc
    exact fun heq => hnot (heq ▸ hmem)
  made e he := by
    rcases List.mem_append.1 he with he | he
    · exact h.made e he
    · obtain rfl := List.mem_singleton.1 he
      exact ⟨attempt, st', st'', ha, hrun⟩
  told e he := by
    rw [units_move hold]
    rcases List.mem_append.1 he with he | he
    · obtain ⟨worker, hw, hk⟩ := h.told e he
      have hne : e.1 ≠ unit := by
        intro heq
        obtain rfl : Worker.ready = worker := Option.some.inj (hold.symm.trans (heq ▸ hw))
        simp [Worker.known?] at hk
      exact ⟨worker, by rw [if_neg hne, hw], hk⟩
    · obtain rfl := List.mem_singleton.1 he
      exact ⟨.returned outcome, if_pos rfl, rfl⟩
  known {other worker outcome'} hw hk := by
    rw [units_move hold] at hw
    rw [List.mem_append]
    split at hw
    · rename_i heq
      obtain rfl := Option.some.inj hw
      obtain rfl := Option.some.inj hk
      exact .inr (.inr (heq ▸ List.mem_singleton.2 rfl))
    · rcases h.known hw hk with hs | hmem
      · exact .inl hs
      · exact .inr (.inl hmem)

theorem Ordered.flag {outcome : UnitOutcome} (h : w.Ordered batch st tried st') :
    (w.flag unit outcome).Ordered batch st tried st' where
  trail := h.trail
  nodup := h.nodup
  made := h.made
  told e he := by
    rw [units_flag]
    exact h.told e he
  known hw hk := h.known (by rwa [units_flag] at hw) hk

/-- A worker that counts learns at most that it leaves its unit alone. -/
theorem eq_skipped_of_known?_count {next seen : Nat} {outcome : UnitOutcome}
    (h : (w.count ceiling unit next seen).known? = some outcome) : outcome = .skipped := by
  unfold Workers.count at h
  split at h
  · simp [Worker.known?] at h
  · split at h
    · exact (Option.some.inj h).symm
    · simp [Worker.known?] at h

/-- **What one step keeps.** At most it makes one more attempt. -/
theorem Ordered.step (hanswers : batch.Answers) (h : w.Ordered batch st tried st')
    (ceiling unit : Nat) :
    ∃ w' tried' st'', (w.step ceiling batch.toArray unit).run st' = (.ok w', st'') ∧
      w'.Ordered batch st tried' st'' ∧ w'.units.size = w.units.size := by
  unfold Workers.step
  rcases hold : w.units[unit]? with _ | old
  · exact ⟨w, tried, st', rfl, h, rfl⟩
  cases old with
  | waiting =>
    refine ⟨_, tried, st', rfl, h.move hold ?_ ?_, size_units_move ..⟩
    · simp [Worker.known?]
    · simp [Worker.known?]
  | counting next seen =>
    refine ⟨_, tried, st', rfl, h.move hold ?_ ?_, size_units_move ..⟩
    · simp [Worker.known?]
    · exact fun outcome hk => .inl (eq_skipped_of_known?_count hk)
  | ready =>
    rcases ha : batch[unit]? with _ | attempt
    · refine ⟨w, tried, st', ?_, h, rfl⟩
      simp only [List.getElem?_toArray, ha]
      rfl
    · obtain ⟨outcome, st'', hrun⟩ := hanswers attempt (List.mem_of_getElem? ha) st'
      refine ⟨w.move unit (.returned outcome), tried ++ [(unit, outcome)], st'', ?_,
        h.attempt hold ha hrun, size_units_move ..⟩
      simp only [List.getElem?_toArray, ha]
      rw [Step.run_bind, hrun]
      rfl
  | returned outcome =>
    have hold' : (w.flag unit outcome).units[unit]? = some (.returned outcome) := by
      rw [units_flag, hold]
    refine ⟨_, tried, st', rfl, h.flag.move hold' ?_ ?_, ?_⟩
    · exact fun _ hk => hk
    · exact fun _ hk => .inr hk
    · rw [size_units_move, units_flag]
  | flagged outcome =>
    refine ⟨_, tried, st', rfl, h.move hold ?_ ?_, size_units_move ..⟩
    · exact fun _ hk => hk
    · exact fun _ hk => .inr hk
  | finished outcome => exact ⟨w, tried, st', rfl, h, rfl⟩

/-- **What a schedule keeps.** -/
theorem Ordered.follow (hanswers : batch.Answers) (ceiling : Nat) (schedule : List Nat) :
    ∀ {w : Workers} {tried : List (Nat × UnitOutcome)} {st' : BuildState σ},
      w.Ordered batch st tried st' →
      ∃ w' tried' st'', (follow ceiling batch.toArray schedule w).run st' = (.ok w', st'') ∧
        w'.Ordered batch st tried' st'' ∧ w'.units.size = w.units.size := by
  induction schedule with
  | nil => intro w tried st' h; exact ⟨w, tried, st', rfl, h, rfl⟩
  | cons unit rest ih =>
    intro w tried st' h
    obtain ⟨w₁, tried₁, st₁, hstep, h₁, hsize₁⟩ := h.step hanswers ceiling unit
    obtain ⟨w₂, tried₂, st₂, hrest, h₂, hsize₂⟩ := ih h₁
    refine ⟨w₂, tried₂, st₂, ?_, h₂, hsize₂.trans hsize₁⟩
    rw [Workers.follow, Step.run_bind, hstep]
    exact hrest

end Workers

namespace Batch

variable {σ : Type} {batch : Batch σ} {st st' : BuildState σ}

/-- What has become of a batch whose attempts may hang on one another: `tried` lists the units that
were tried, in the order of their attempts and each with its outcome, and the outcomes `found` are
recorded. -/
structure Recorded (batch : Batch σ) (st : BuildState σ) (found : List UnitOutcome)
    (tried : List (Nat × UnitOutcome)) (st' : BuildState σ) : Prop where
  /-- The attempts were made one after another. -/
  trail : Trail (tried.filterMap fun e => batch[e.1]?) st (tried.map Prod.snd) st'
  /-- None was made twice. -/
  nodup : (tried.map Prod.fst).Nodup
  /-- An outcome is that of an attempt at its unit. -/
  made : ∀ e ∈ tried, ∃ attempt st₁ st₂, batch[e.1]? = some attempt ∧
    attempt.run st₁ = (.ok e.2, st₂)
  /-- What is recorded of a unit is the outcome of its attempt, unless the unit was left alone; and
  it is recorded in the order of the units. -/
  found_eq : ∃ slots : List (Option UnitOutcome), slots.length ≤ batch.length ∧
    found = slots.filterMap id ∧ ∀ unit outcome, slots[unit]? = some (some outcome) →
      outcome = .skipped ∨ (unit, outcome) ∈ tried

/-- **Workers record the outcomes of attempts that were made in some order.** -/
theorem run_runConcurrently_recorded (hanswers : batch.Answers) (schedule : List Nat)
    (ceiling : Nat) (st : BuildState σ) :
    ∃ found tried st', (batch.runConcurrently schedule ceiling).run st = (.ok found, st') ∧
      batch.Recorded st found tried st' := by
  obtain ⟨w, tried, st', hrun, h, hsize⟩ := (Workers.ordered_start batch st).follow hanswers ceiling
    (schedule ++ Workers.unitByUnit batch.length)
  refine ⟨w.outcomes, tried, st', ?_, h.trail, h.nodup, h.made,
    w.units.toList.map Worker.outcome?, ?_, ?_, ?_⟩
  · rw [runConcurrently, Step.run_bind, hrun]
    rfl
  · rw [List.length_map, Array.length_toList, hsize]
    simp [Workers.start]
  · rw [Workers.outcomes, List.filterMap_map]
    rfl
  · intro unit outcome hslot
    rw [List.getElem?_map, Option.map_eq_some_iff] at hslot
    obtain ⟨worker, hw, ho⟩ := hslot
    refine h.known (by rwa [← Array.getElem?_toList]) ?_
    cases worker with
    | finished outcome' => exact ho
    | waiting | counting | ready | returned | flagged => simp [Worker.outcome?] at ho

/-- The first entries of a list, one by one. -/
theorem filterMap_range_getElem? {α : Type} (l : List α) (n : Nat) :
    (List.range n).filterMap (fun i => l[i]?) = l.take n := by
  induction n with
  | zero => rfl
  | succ n ih =>
    rw [List.range_succ, List.filterMap_append, ih, List.take_add_one]
    cases h : l[n]? <;> simp [h]

/-- In turn the attempts are made in the order of the units. -/
theorem run_runInTurn_recorded (hanswers : batch.Answers) (ceiling : Nat) (st : BuildState σ) :
    ∃ found tried st', (runInTurn ceiling 0 batch).run st = (.ok found, st') ∧
      batch.Recorded st found tried st' := by
  obtain ⟨found, st', hrun, hturn⟩ := run_runInTurn hanswers (Nat.zero_le ceiling) st
  have hfst : ((List.range found.length).zip found).map Prod.fst = List.range found.length :=
    List.map_fst_zip (by simp)
  have hsnd : ((List.range found.length).zip found).map Prod.snd = found :=
    List.map_snd_zip (by simp)
  have hmem : ∀ e ∈ (List.range found.length).zip found, found[e.1]? = some e.2 := by
    intro e he
    obtain ⟨n, hn, rfl⟩ := List.getElem_of_mem he
    simp only [List.getElem_zip, List.getElem_range]
    exact List.getElem?_eq_getElem _
  have hbatch : ((List.range found.length).zip found).filterMap (fun e => batch[e.1]?) =
      batch.take found.length := by
    rw [← filterMap_range_getElem? batch found.length, ← congrArg (List.filterMap _) hfst,
      List.filterMap_map]
    rfl
  refine ⟨found, (List.range found.length).zip found, st', hrun, ?_, ?_, ?_,
    found.map some, ?_, ?_, ?_⟩
  · rw [hbatch, hsnd]
    exact hturn.trail
  · rw [hfst]
    exact List.nodup_range
  · intro e he
    obtain ⟨attempt, st₁, st₂, ha, hattempt⟩ := hturn.trail.made (hmem e he)
    rw [List.getElem?_take_of_lt (List.getElem?_eq_some_iff.1 (hmem e he)).1] at ha
    exact ⟨attempt, st₁, st₂, ha, hattempt⟩
  · rw [List.length_map]
    exact hturn.length_le
  · rw [List.filterMap_map]
    simp
  · intro unit outcome hslot
    rw [List.getElem?_map, Option.map_eq_some_iff] at hslot
    obtain ⟨outcome', ho, heq⟩ := hslot
    obtain rfl := Option.some.inj heq
    obtain ⟨hu, rfl⟩ := List.getElem?_eq_some_iff.1 ho
    exact .inr (List.mem_iff_getElem.2 ⟨unit, by simpa using hu, by simp⟩)

end Batch

/-- **A batch as a builder carries it out**, shared or in turn. -/
theorem Builder.run_runBatch_recorded {σ τ : Type} {batch : Batch σ} (hanswers : batch.Answers)
    (b : Builder τ) (st : BuildState σ) :
    ∃ found tried st', (b.runBatch batch).run st = (.ok found, st') ∧
      batch.Recorded st found tried st' := by
  unfold Builder.runBatch
  by_cases hc : b.isConcurrent batch.length = true
  · simp only [hc, if_true]
    exact Batch.run_runConcurrently_recorded hanswers _ _ st
  · simp only [hc]
    exact Batch.run_runInTurn_recorded hanswers _ st

end ModuleBuild
