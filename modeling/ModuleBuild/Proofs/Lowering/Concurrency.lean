import ModuleBuild.Build.Lowering
import ModuleBuild.Proofs.Lowering.Interleaving

/-!
# Sharing a batch among workers

Several workers bring a batch to the same report as one that makes the attempts in turn, and with
the same diagnostics, whatever the order of their steps. They may make more attempts, but none
twice, and they leave a unit alone only if the batch would not have come to it in turn.

## Main definitions

* `Batch.Shared` — the outcomes that workers record, beside those that the attempts have
* `Builder.attempts` — the attempts for some units, each by a runner of its own
* `Builder.inTurn` — the same tools, for one unit at a time

## Main results

* `Batch.Settled.run_runConcurrently`, `Batch.Settled.run_runInTurn` — a batch by workers, and the
  same batch in turn
* `Batch.Shared.gather_eq` — both have the same report
* `Builder.lowering_shared_eq_inTurn` — the whole step for any schedule
-/

namespace ModuleBuild

/-! ### The report on what workers record -/

/-- An outcome that is missing where the report does not look does not show in it. -/
theorem gather_eq_of_overlooked {ceiling : Nat} {outcomes found : List UnitOutcome}
    {r : LoweringReport} (hr : r.failures.length ≤ ceiling)
    (hlength : found.length = outcomes.length)
    (h : ∀ unit outcome, found[unit]? = some outcome → outcomes[unit]? = some outcome ∨
      (outcome = .skipped ∧ ceiling < r.failures.length + failuresBefore outcomes unit)) :
    gather ceiling r found = gather ceiling r outcomes := by
  induction outcomes generalizing found r with
  | nil =>
    obtain rfl := List.length_eq_zero_iff.1 hlength
    rfl
  | cons outcome rest ih =>
    obtain ⟨first, others, rfl⟩ := List.exists_cons_of_length_eq_add_one hlength
    -- no unit too many has failed so far, so the first outcome is there
    obtain rfl : first = outcome := by
      rcases h 0 first rfl with h0 | ⟨-, h0⟩
      · exact (Option.some.inj h0).symm
      · rw [failuresBefore_zero] at h0
        omega
    have htail : ∀ unit outcome, others[unit]? = some outcome → rest[unit]? = some outcome ∨
        (outcome = .skipped ∧
          ceiling < Batch.countFailure r.failures.length first + failuresBefore rest unit) := by
      intro unit outcome ho
      rw [← failuresBefore_cons_succ]
      exact h (unit + 1) outcome ho
    have hothers : others.length = rest.length := Nat.succ.inj hlength
    cases first with
    | lowered object =>
      rw [gather_lowered, gather_lowered]
      refine ih ?_ hothers ?_
      · exact hr
      · exact htail
    | skipped =>
      rw [gather_skipped, gather_skipped]
      exact ih hr hothers htail
    | failed failure =>
      by_cases hc : ceiling ≤ r.failures.length
      · rw [gather_failed_of_le hc, gather_failed_of_le hc]
      · have hlt : r.failures.length < ceiling := Nat.lt_of_not_le hc
        have hle : (r.failures ++ [failure]).length ≤ ceiling := by
          simpa using Nat.succ_le_of_lt hlt
        rw [gather_failed_of_lt hlt, gather_failed_of_lt hlt]
        simp only
        rw [ih hle hothers (by simpa [Batch.countFailure, UnitOutcome.isFailed] using htail)]

namespace Batch

variable {σ : Type} {ceiling : Nat} {outcomes found : List UnitOutcome} {tried : List Nat}

/-- The units that were tried, where only units behind the failure that is one too many may be left
alone. -/
structure Covers (ceiling : Nat) (outcomes : List UnitOutcome) (tried : List Nat) : Prop where
  /-- No unit is tried twice. -/
  nodup : tried.Nodup
  /-- Only units of the batch are tried. -/
  lt_length : ∀ unit ∈ tried, unit < outcomes.length
  /-- One unit too many fails before a unit that was not tried. -/
  of_not_tried : ∀ unit < outcomes.length, unit ∉ tried → ceiling < failuresBefore outcomes unit

/-- What workers have `found` of a batch with fixed outcomes, having `tried` some units. -/
structure Shared (ceiling : Nat) (outcomes found : List UnitOutcome) (tried : List Nat) : Prop
    extends Covers ceiling outcomes tried where
  /-- An outcome is recorded for each unit. -/
  length_eq : found.length = outcomes.length
  /-- What is recorded of a unit that was tried is its outcome. -/
  found_tried : ∀ unit ∈ tried, found[unit]? = outcomes[unit]?
  /-- A unit that was not tried is recorded as such. -/
  found_not_tried : ∀ unit < outcomes.length, unit ∉ tried → found[unit]? = some .skipped

/-- **The same report** for what workers find. -/
theorem Shared.gather_eq (h : Shared ceiling outcomes found tried) {r : LoweringReport}
    (hr : r.failures = []) : gather ceiling r found = gather ceiling r outcomes := by
  refine gather_eq_of_overlooked (by simp [hr]) h.length_eq fun unit outcome ho => ?_
  by_cases ht : unit ∈ tried
  · exact .inl (h.found_tried unit ht ▸ ho)
  · have hu : unit < outcomes.length := h.length_eq ▸ (List.getElem?_eq_some_iff.1 ho).1
    have hs : outcome = .skipped := Option.some.inj (ho.symm.trans (h.found_not_tried unit hu ht))
    exact .inr ⟨hs, by simpa [hr] using h.of_not_tried unit hu ht⟩

/-- Up to the failure that is one too many, every unit is tried once. -/
theorem Covers.count_eq_one (h : Covers ceiling outcomes tried) {unit : Nat}
    (hu : unit < outcomes.length) (hc : failuresBefore outcomes unit ≤ ceiling) :
    tried.count unit = 1 := by
  by_cases ht : unit ∈ tried
  · rw [h.nodup.count, if_pos ht]
  · exact absurd hc (Nat.not_le.2 (h.of_not_tried unit hu ht))

end Batch

/-- The outcomes of workers that have all come to their end. -/
theorem map_finished_outcomes {l : List Worker}
    (h : ∀ worker ∈ l, ∃ outcome, worker = .finished outcome) :
    (l.filterMap Worker.outcome?).map Worker.finished = l := by
  induction l with
  | nil => rfl
  | cons worker rest ih =>
    obtain ⟨outcome, rfl⟩ := h worker List.mem_cons_self
    simp [Worker.outcome?, ih fun w hw => h w (List.mem_cons_of_mem _ hw)]

/-- Sound workers that have all come to their end have found what is to be found. -/
theorem Workers.Sound.shared {w : Workers} {ceiling : Nat} {outcomes : List UnitOutcome}
    {tried : List Nat} (h : w.Sound ceiling outcomes tried) (hskipped : .skipped ∉ outcomes)
    (hdone : ∀ unit < outcomes.length, ∃ outcome, w.units[unit]? = some (.finished outcome)) :
    Batch.Shared ceiling outcomes w.outcomes tried := by
  have hmap : w.outcomes.map Worker.finished = w.units.toList := by
    refine map_finished_outcomes fun worker hw => ?_
    obtain ⟨unit, hu, rfl⟩ := List.getElem_of_mem hw
    obtain ⟨outcome, ho⟩ := hdone unit (h.size_units ▸ by simpa using hu)
    rw [← Array.getElem?_toList, List.getElem?_eq_getElem hu] at ho
    exact ⟨outcome, Option.some.inj ho⟩
  have hlength : w.outcomes.length = outcomes.length := by
    rw [← h.size_units, ← Array.length_toList, ← hmap, List.length_map]
  have hunits : ∀ unit : Nat, w.units[unit]? = w.outcomes[unit]?.map Worker.finished := by
    intro unit
    rw [← Array.getElem?_toList, ← hmap, List.getElem?_map]
  have hlt : ∀ unit ∈ tried, unit < outcomes.length := by
    intro unit ht
    obtain ⟨worker, hw, -⟩ := (h.mem_tried unit).1 ht
    exact h.size_units ▸ Workers.lt_size_of_getElem? hw
  have hskip : ∀ unit < outcomes.length, unit ∉ tried →
      w.outcomes[unit]? = some .skipped ∧ ceiling < failuresBefore outcomes unit := by
    intro unit hu ht
    obtain ⟨outcome, ho⟩ := hdone unit hu
    have hfound : w.outcomes[unit]? = some outcome := by
      simpa using (hunits unit).symm.trans ho
    rcases (h.worker ho).known rfl with hout | ⟨rfl, hc⟩
    · refine absurd ((h.mem_tried unit).2 ⟨_, ho, outcome, rfl, ?_⟩) ht
      exact fun hs => hskipped (hs ▸ List.mem_of_getElem? hout)
    · exact ⟨hfound, hc⟩
  refine ⟨⟨h.nodup, hlt, fun unit hu ht => (hskip unit hu ht).2⟩, hlength, fun unit ht => ?_,
    fun unit hu ht => (hskip unit hu ht).1⟩
  · obtain ⟨worker, hw, outcome, hk, hs⟩ := (h.mem_tried unit).1 ht
    obtain ⟨outcome', ho⟩ := hdone unit (hlt unit ht)
    obtain rfl : worker = .finished outcome' := Option.some.inj (hw.symm.trans ho)
    obtain rfl : outcome' = outcome := Option.some.inj hk
    rcases (h.worker hw).known hk with hout | ⟨rfl, -⟩
    · rw [hout]
      simpa using (hunits unit).symm.trans hw
    · exact absurd rfl hs

namespace Batch

variable {σ : Type} {batch : Batch σ} {outcomes : List UnitOutcome}

/-- **A batch by workers.** -/
theorem Settled.run_runConcurrently (hb : batch.Settled outcomes) (schedule : List Nat)
    (ceiling : Nat) (st : BuildState σ) :
    ∃ found tried, (batch.runConcurrently schedule ceiling).run st =
        (.ok found, batch.after st tried) ∧
      Shared ceiling outcomes found tried := by
  obtain ⟨w, tried, hrun, hsound, hdone⟩ := Workers.follow_unitByUnit hb ceiling schedule st
  refine ⟨w.outcomes, tried, ?_, hsound.shared hb.not_skipped hdone⟩
  rw [runConcurrently, Step.run_bind, hrun]
  rfl

theorem Settled.answers (hb : batch.Settled outcomes) : batch.Answers := by
  intro attempt ha st
  obtain ⟨unit, hu, rfl⟩ := List.getElem_of_mem ha
  have hu' : unit < outcomes.length := hb.length_eq ▸ hu
  exact ⟨outcomes[unit], _, Prod.ext
    (hb.run (List.getElem?_eq_getElem hu) (List.getElem?_eq_getElem hu') st).1 rfl⟩

/-- A trail of attempts with fixed outcomes comes to these outcomes. The induction is on the units
that the trail has left behind. -/
theorem Settled.eq_of_trail (hb : batch.Settled outcomes) {attempts : Batch σ}
    {st st' : BuildState σ} {found : List UnitOutcome} (h : Trail attempts st found st') :
    ∀ (first : Nat) (st₀ : BuildState σ), attempts <+: batch.drop first →
      st = batch.after st₀ (List.range first) →
      found = (outcomes.drop first).take found.length ∧
        st' = batch.after st₀ (List.range (first + found.length)) := by
  induction h with
  | nil st => intro first st₀ _ hst; exact ⟨rfl, hst⟩
  | @cons attempt rest st st₁ st' outcome found hfirst hothers ih =>
    intro first st₀ hpart hst
    have ha : batch[first]? = some attempt := by
      obtain ⟨others, hdrop⟩ := hpart
      have hat : batch[first + 0]? = (batch.drop first)[0]? := List.getElem?_drop.symm
      rw [← hdrop] at hat
      exact hat
    have hu : first < outcomes.length := hb.length_eq ▸ (List.getElem?_eq_some_iff.1 ha).1
    have ho : outcomes[first] = outcome := by
      have := (hb.run ha (List.getElem?_eq_getElem hu) st).1
      rw [hfirst] at this
      exact (Except.ok.inj this).symm
    have hst₁ : st₁ = batch.after st₀ (List.range (first + 1)) := by
      rw [List.range_succ, after_concat ha, ← hst, hfirst]
    have hrest : rest <+: batch.drop (first + 1) := by
      rw [List.drop_eq_getElem_cons (hb.length_eq ▸ hu)] at hpart
      exact (List.cons_prefix_cons.1 hpart).2
    obtain ⟨hfound, hst'⟩ := ih (first + 1) st₀ hrest hst₁
    refine ⟨?_, ?_⟩
    · rw [List.drop_eq_getElem_cons hu, List.length_cons, List.take_succ_cons, ← hfound, ho]
    · rw [hst', List.length_cons, Nat.add_right_comm, Nat.add_assoc]

/-- **The same batch in turn.** It comes to the first units only, as many as it takes for one too
many to fail. -/
theorem Settled.run_runInTurn (hb : batch.Settled outcomes) (ceiling : Nat) (st : BuildState σ) :
    ∃ reached, reached ≤ outcomes.length ∧
      (runInTurn ceiling 0 batch).run st =
        (.ok (outcomes.take reached), batch.after st (List.range reached)) ∧
      (∀ unit < reached, failuresBefore outcomes unit ≤ ceiling) ∧
      (reached < outcomes.length → ceiling < failuresBefore outcomes reached) := by
  obtain ⟨found, st', hrun, hturn⟩ := Batch.run_runInTurn hb.answers (Nat.zero_le ceiling) st
  obtain ⟨hfound, hst'⟩ := hb.eq_of_trail hturn.trail 0 st (List.take_prefix _ _) rfl
  rw [List.drop_zero] at hfound
  have hcount : ∀ n ≤ found.length, failuresBefore found n = failuresBefore outcomes n := by
    intro n hn
    rw [hfound, failuresBefore_take hn]
  refine ⟨found.length, hb.length_eq ▸ hturn.length_le, ?_, fun unit hu => ?_, fun hlt => ?_⟩
  · rw [hrun, hst', Nat.zero_add, ← hfound]
  · have := hturn.within unit hu
    rwa [Nat.zero_add, hcount unit (Nat.le_of_lt hu)] at this
  · have := hturn.halted (hb.length_eq ▸ hlt)
    rwa [Nat.zero_add, hcount _ (Nat.le_refl _)] at this

/-- A batch with fixed outcomes as a builder carries it out. -/
theorem Settled.run_runBatch {τ : Type} (hb : batch.Settled outcomes) (b : Builder τ)
    (st : BuildState σ) :
    ∃ found tried, (b.runBatch batch).run st = (.ok found, batch.after st tried) ∧
      collect batch.length found = collect batch.length outcomes ∧
      Covers (failureCeiling batch.length) outcomes tried := by
  unfold Builder.runBatch
  by_cases hc : b.isConcurrent batch.length = true
  · obtain ⟨found, tried, hrun, hshared⟩ :=
      hb.run_runConcurrently b.lowering.schedule (failureCeiling batch.length) st
    refine ⟨found, tried, ?_, ?_, hshared.toCovers⟩
    · simp only [hc, if_true]
      exact hrun
    · simp only [collect, hshared.gather_eq (r := { total := batch.length }) rfl]
  · obtain ⟨reached, hle, hrun, -, hhalted⟩ :=
      hb.run_runInTurn (failureCeiling batch.length) st
    refine ⟨outcomes.take reached, List.range reached, ?_, ?_, ?_⟩
    · simp only [hc]
      exact hrun
    · have hgather := gather_take (r := { total := batch.length }) (Nat.zero_le _)
        (by simpa using hhalted)
      simp only [collect, hgather]
    · refine ⟨List.nodup_range, fun unit hu => ?_, fun unit hu ht => ?_⟩
      · exact Nat.lt_of_lt_of_le (List.mem_range.1 hu) hle
      · have hreached : reached ≤ unit := Nat.le_of_not_lt fun h => ht (List.mem_range.2 h)
        exact Nat.lt_of_lt_of_le (hhalted (Nat.lt_of_le_of_lt hreached hu))
          (failuresBefore_mono outcomes hreached)

/-! ### The whole step -/

end Batch

namespace Builder

variable {σ τ : Type}

/-- The same tools, for one unit at a time. -/
def inTurn (b : Builder σ) : Builder σ := { b with lowering := { b.lowering with jobs := 1 } }

end Builder

/-- **A batch with fixed outcomes, shared and in turn**: the same report, the same diagnostics, and
the units that are tried. -/
theorem Batch.Settled.lowerBatch_inTurn {σ τ : Type} {batch : Batch σ} {outcomes : List UnitOutcome}
    (hb : batch.Settled outcomes) (b : Builder τ) (r : Request) (st : BuildState σ) :
    let shared := (b.lowerBatch r batch).run st
    let alone := (b.inTurn.lowerBatch r batch).run st
    shared.1 = alone.1 ∧ shared.2.sink = alone.2.sink ∧
    ∃ st₁ tried reached, st₁.tools = st.tools ∧
      shared.2.tools = (batch.after st₁ tried).tools ∧
      alone.2.tools = (batch.after st₁ (List.range reached)).tools ∧ reached ≤ batch.length ∧
      tried.Nodup ∧ (∀ unit ∈ tried, unit < batch.length) ∧
      (∀ unit < reached, tried.count unit = 1) ∧
      ∀ unit < batch.length, unit ∉ tried → reached ≤ unit := by
  dsimp only
  have hdir := Step.run_createDirectories b.cwd r.optDir st
  generalize st.files.createDirectories b.cwd r.optDir = made at hdir
  obtain ⟨fault | ⟨⟩, files⟩ := made
  · -- without a directory for the objects nothing is tried
    rw [Builder.run_lowerBatch_of_error hdir batch,
      Builder.run_lowerBatch_of_error (b := b.inTurn) hdir batch]
    refine ⟨rfl, rfl, _, [], 0, rfl, rfl, rfl, Nat.zero_le _, List.nodup_nil, ?_, ?_, ?_⟩
    · simp
    · simp
    · simp
  · obtain ⟨found, tried, hshared, hcollect, hcovers⟩ := hb.run_runBatch b { st with files }
    obtain ⟨reached, hle, halone, hwithin, hhalted⟩ :=
      hb.run_runInTurn (failureCeiling batch.length) { st with files }
    have hgather := gather_take (r := { total := batch.length }) (Nat.zero_le _)
      (by simpa using hhalted)
    have hcollect' : collect batch.length (outcomes.take reached) =
        collect batch.length outcomes := by
      simp only [collect, hgather]
    rw [Builder.run_lowerBatch hdir hshared,
      Builder.run_lowerBatch (b := b.inTurn) hdir halone, hcollect, hcollect']
    simp only [hb.sink_after]
    refine ⟨trivial, trivial, { st with files }, tried, reached, rfl, rfl, rfl, ?_, hcovers.nodup,
      ?_, fun unit hu => ?_, fun unit hu ht => ?_⟩
    · exact hb.length_eq ▸ hle
    · exact hb.length_eq ▸ hcovers.lt_length
    · exact hcovers.count_eq_one (Nat.lt_of_lt_of_le hu hle) (hwithin unit hu)
    · have hover := hcovers.of_not_tried unit (hb.length_eq ▸ hu) ht
      exact Nat.le_of_not_lt fun hlt => absurd (hwithin unit hlt) (Nat.not_le.2 hover)

namespace Builder

variable {σ τ : Type} {b : Builder σ} {r : Request} {units : List Path}
  {runners : Nat → Runner τ} {answers : Nat → Except FileFault ToolOutput}

/-- The attempts for some units, each by a runner of its own. -/
def attempts (b : Builder σ) (r : Request) (runners : Nat → Runner τ) (units : List Path) :
    Batch τ :=
  units.mapIdx fun n unit => (b.withRunner (runners n)).lowerOne r unit

/-- The runners of some units, each of which notes the number of its unit. -/
def numbered (runners : Nat → Runner τ) (n : Nat) : Runner (List Nat × τ) :=
  (runners n).noting fun _ _ => n

/-- The tool call for each unit has a fixed answer. -/
def FixedAnswers (b : Builder σ) (r : Request) (runners : Nat → Runner τ) (units : List Path)
    (answers : Nat → Except FileFault ToolOutput) : Prop :=
  ∀ n unit, units[n]? = some unit → ∀ files tools,
    ((runners n).run (b.lowerInvocation r unit) files tools).1 = answers n

/-- The outcomes of attempts with fixed answers. -/
def outcomesOf (b : Builder σ) (r : Request) (answers : Nat → Except FileFault ToolOutput)
    (units : List Path) : List UnitOutcome :=
  units.mapIdx fun n unit => outcomeOf (b.lowerInvocation r unit) unit (answers n)

@[simp] theorem length_attempts : (b.attempts r runners units).length = units.length := by
  simp [attempts]

@[simp] theorem length_outcomesOf : (b.outcomesOf r answers units).length = units.length := by
  simp [outcomesOf]

/-- Lowering some units with the tools of a builder. -/
theorem lowerUnits_eq_attempts (b : Builder σ) (r : Request) (units : List Path) :
    b.lowerUnits r units = b.lowerBatch r (b.attempts r (fun _ => b.runner) units) := by
  refine congrArg (b.lowerBatch r) (List.ext_getElem? fun n => ?_)
  rw [attempts, List.getElem?_map, List.getElem?_mapIdx]
  rfl

theorem outcomeOf_ne_skipped (i : Invocation) (unit : Path)
    (answer : Except FileFault ToolOutput) : outcomeOf i unit answer ≠ .skipped := by
  rcases answer with fault | output
  · simp [outcomeOf]
  · by_cases hs : output.succeeded = true <;> simp [outcomeOf, hs]

/-- Attempts with fixed answers have fixed outcomes. -/
theorem FixedAnswers.settled (h : b.FixedAnswers r runners units answers) :
    (b.attempts r runners units).Settled (b.outcomesOf r answers units) where
  length_eq := by simp
  not_skipped hs := by
    obtain ⟨n, hn, he⟩ := List.getElem_of_mem hs
    exact outcomeOf_ne_skipped _ _ _ ((List.getElem_mapIdx ..).symm.trans he)
  run {n attempt outcome} ha ho st := by
    rw [attempts, List.getElem?_mapIdx, Option.map_eq_some_iff] at ha
    obtain ⟨unit, hu, rfl⟩ := ha
    rw [outcomesOf, List.getElem?_mapIdx, hu] at ho
    obtain rfl := Option.some.inj ho
    rw [run_lowerOne]
    exact ⟨congrArg (fun a => Except.ok (outcomeOf _ _ a)) (h n unit hu st.files st.tools), rfl⟩

/-- Keeping notes does not change the answers. -/
theorem FixedAnswers.noting (h : b.FixedAnswers r runners units answers) :
    b.FixedAnswers r (numbered runners) units answers :=
  fun n unit hu files tools => h n unit hu files tools.2

/-- The notes that are kept on the attempts for some units are their numbers. -/
theorem tools_after_attempts (st : BuildState (List Nat × τ)) {tried : List Nat}
    (h : ∀ unit ∈ tried, unit < units.length) :
    ((b.attempts r (numbered runners) units).after st tried).tools.1 = st.tools.1 ++ tried := by
  induction tried generalizing st with
  | nil => simp
  | cons unit rest ih =>
    have hlt : unit < units.length := h unit List.mem_cons_self
    have hu : units[unit]? = some units[unit] := List.getElem?_eq_getElem hlt
    rw [Batch.after, List.foldl_cons, attempts, List.getElem?_mapIdx, hu, List.append_cons]
    exact ih _ fun n hn => h n (List.mem_cons_of_mem _ hn)

/-- **Sharing does not show.** If the answer to each tool call is fixed, then any number of workers,
in any order of their steps, come to the report and the diagnostics of one unit after another. They
try no unit twice, and each unit that is tried in turn they try once; a unit that they leave alone
is one that is not come to in turn. -/
theorem lowering_shared_eq_inTurn {runners : Nat → Runner σ}
    (h : b.FixedAnswers r runners units answers) :
    ((∀ n, runners n = b.runner) → ∀ st,
      ((b.lowerUnits r units).run st).1 = ((b.inTurn.lowerUnits r units).run st).1 ∧
      ((b.lowerUnits r units).run st).2.sink = ((b.inTurn.lowerUnits r units).run st).2.sink) ∧
    ∀ st : BuildState (List Nat × σ),
      let batch := b.attempts r (numbered runners) units
      let shared := (b.lowerBatch r batch).run st
      let alone := (b.inTurn.lowerBatch r batch).run st
      shared.1 = alone.1 ∧ shared.2.sink = alone.2.sink ∧
      ∃ tried reached, shared.2.tools.1 = st.tools.1 ++ tried ∧
        alone.2.tools.1 = st.tools.1 ++ List.range reached ∧ reached ≤ units.length ∧
        tried.Nodup ∧ (∀ unit ∈ tried, unit < units.length) ∧
        (∀ unit < reached, tried.count unit = 1) ∧
        ∀ unit < units.length, unit ∉ tried → reached ≤ unit := by
  refine ⟨fun hrunners st => ?_, fun st => ?_⟩
  · obtain rfl : runners = fun _ => b.runner := funext hrunners
    rw [lowerUnits_eq_attempts, lowerUnits_eq_attempts]
    obtain ⟨hreport, hsink, -⟩ := h.settled.lowerBatch_inTurn b r st
    exact ⟨hreport, hsink⟩
  · have hb := h.noting.settled
    obtain ⟨hreport, hsink, st₁, tried, reached, hst₁, hshared, halone, hle, hnodup, hlt, hone,
      hleft⟩ := hb.lowerBatch_inTurn b r st
    rw [length_attempts] at hle hlt hleft
    refine ⟨hreport, hsink, tried, reached, ?_, ?_, hle, hnodup, hlt, hone, hleft⟩
    · rw [hshared, tools_after_attempts st₁ hlt, hst₁]
    · rw [halone, tools_after_attempts st₁ fun unit hu => ?_, hst₁]
      exact Nat.lt_of_lt_of_le (List.mem_range.1 hu) hle

/-- A request with no wishes beyond its target. -/
def plainRequest : Request where
  target := ⟨"app.bc"⟩
  outputDir := ⟨"/w"⟩
  profile := .debug
  framePointer := .all
  files := []
  passthrough := []
  manifestName := "app.json"
  publish := .response ⟨"/w/app.rsp"⟩

/-- Three workers, of which the one for the last unit comes to its end first. -/
def hastyBuilder : Builder Unit where
  runner := ⟨fun _ files tools => (.ok { code := some 0 }, files, tools)⟩
  toolchain := ⟨⟨"debase"⟩, ⟨"llc"⟩⟩
  lowering := { jobs := 3, schedule := List.replicate 8 3 ++ List.replicate 6 1 }
  cwd := []

/-- One unit of each fate: an error, a signal, an object, and a tool that cannot start. -/
def mixedAnswers : Nat → Except FileFault ToolOutput
  | 0 => .ok { code := some 1, stderr := "bad unit" }
  | 1 => .ok { code := none }
  | 2 => .ok { code := some 0 }
  | _ => .error .notFound

/-- Each unit has a runner that gives its answer and does nothing. -/
def mixedRunners (n : Nat) : Runner Unit := ⟨fun _ files tools => (mixedAnswers n, files, tools)⟩

/-- Four units of mixed fate. -/
def mixedUnits : List Path := [⟨"lib/a.bc"⟩, ⟨"lib/b.bc"⟩, ⟨"lib/c.bc"⟩, ⟨"lib/d.bc"⟩]

/-- The workers try the last unit, which is not come to in turn, and leave the third one alone. -/
theorem lowering_shared_eq_inTurn_hasty :
    let batch := hastyBuilder.attempts plainRequest (numbered mixedRunners) mixedUnits
    let shared := (hastyBuilder.lowerBatch plainRequest batch).run ⟨.empty, ([], ()), .empty⟩
    let alone := (hastyBuilder.inTurn.lowerBatch plainRequest batch).run ⟨.empty, ([], ()), .empty⟩
    hastyBuilder.FixedAnswers plainRequest mixedRunners mixedUnits mixedAnswers ∧
      shared.1 = alone.1 ∧ shared.2.sink = alone.2.sink ∧
      shared.2.tools.1 = [3, 1, 0] ∧ alone.2.tools.1 = [0, 1] := by
  have hfixed : hastyBuilder.FixedAnswers plainRequest mixedRunners mixedUnits mixedAnswers :=
    fun _ _ _ _ _ => rfl
  obtain ⟨hreport, hsink, -⟩ := (lowering_shared_eq_inTurn hfixed).2 ⟨.empty, ([], ()), .empty⟩
  refine ⟨hfixed, hreport, hsink, ?_, ?_⟩
  · decide +kernel
  · decide +kernel

end Builder

end ModuleBuild
