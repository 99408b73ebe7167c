import ModuleBuild.Proofs.Build.Attempts
import ModuleBuild.Proofs.Build.Debasing

/-!
# What a batch in turn comes to

The failures of a batch are counted twice: while the units are lowered, to know when to stop, and
again when the report is made of what became of them. This module says what comes of both, for any
units and any tool: which units are called for, which of them are in the report and where, and what
the user is told.

The tool may hang on the calls before, through the files and its own state. So nothing can be said
of a unit that no call was made for, and everything here is told in terms of the calls.

## Main definitions

* `objectsOf`, `failuresOf` — what became of the units of some attempts
* `Builder.Tally` — the attempts of a batch in turn, and what the report says of them

## Main results

* `gather_map_outcome` — the report counts as the batch in turn has counted
* `Builder.Tally.of_inTurn` — the tally of a batch in turn
* `Builder.tally` — every batch in turn has a tally, and it decides how the second step ends
-/

namespace ModuleBuild

/-! ### Counting -/

/-- The objects of the units that were lowered, in order. -/
def objectsOf (attempts : List Attempt) : List Path :=
  (attempts.filter fun a => !a.hasFailed).map fun a => Request.objectFor a.unit

/-- The failures of the units that could not be lowered, in order. -/
def failuresOf (attempts : List Attempt) : List UnitFailure :=
  (attempts.filter Attempt.hasFailed).map Attempt.failure

section Counting

variable {attempts rest : List Attempt} {a : Attempt}

theorem objectsOf_cons_of_hasFailed (h : a.hasFailed = true) :
    objectsOf (a :: rest) = objectsOf rest := by
  simp [objectsOf, h]

theorem objectsOf_cons_of_not_hasFailed (h : a.hasFailed = false) :
    objectsOf (a :: rest) = Request.objectFor a.unit :: objectsOf rest := by
  simp [objectsOf, h]

theorem failuresOf_cons_of_hasFailed (h : a.hasFailed = true) :
    failuresOf (a :: rest) = a.failure :: failuresOf rest := by
  simp [failuresOf, h]

theorem failuresOf_cons_of_not_hasFailed (h : a.hasFailed = false) :
    failuresOf (a :: rest) = failuresOf rest := by
  simp [failuresOf, h]

/-- Every unit was lowered or has failed. -/
theorem length_objectsOf_add (attempts : List Attempt) :
    (objectsOf attempts).length + (failuresOf attempts).length = attempts.length := by
  rw [objectsOf, failuresOf, List.length_map, List.length_map, ← List.countP_eq_length_filter,
    ← List.countP_eq_length_filter, Nat.add_comm,
    List.length_eq_countP_add_countP Attempt.hasFailed]
  simp

/-- There are as many failures among the first attempts as the batch has counted. -/
theorem failuresBefore_map_outcome (attempts : List Attempt) (n : Nat) :
    failuresBefore (attempts.map Attempt.outcome) n = (failuresOf (attempts.take n)).length := by
  have hfailed : UnitOutcome.isFailed ∘ Attempt.outcome = Attempt.hasFailed :=
    funext Attempt.isFailed_outcome
  rw [failuresBefore, ← List.map_take, List.countP_map, hfailed, failuresOf, List.length_map,
    List.countP_eq_length_filter]

/-- No attempt has failed if there is no failure. -/
theorem failuresOf_eq_nil_iff : failuresOf attempts = [] ↔ ∀ a ∈ attempts, a.hasFailed = false := by
  rw [failuresOf, List.map_eq_nil_iff, List.filter_eq_nil_iff]
  simp only [Bool.not_eq_true]

/-- If none has failed then there is an object for each unit. -/
theorem objectsOf_eq_map (h : failuresOf attempts = []) :
    objectsOf attempts = (attempts.map Attempt.unit).map Request.objectFor := by
  have hall : ∀ a ∈ attempts, (!a.hasFailed) = true := by
    intro a ha
    rw [failuresOf_eq_nil_iff.1 h a ha, Bool.not_false]
  rw [objectsOf, List.filter_eq_self.2 hall, List.map_map]
  rfl

end Counting

/-! ### The report -/

/-- **The report counts as the batch in turn has counted.** If no failure but the last attempt is
one too many, then all attempts are in the report, each in its place, and the report says that the
batch was cut short exactly if the last one was one too many. -/
theorem gather_map_outcome {ceiling : Nat} {attempts : List Attempt} {report : LoweringReport}
    (hreport : report.failures.length ≤ ceiling)
    (hwithin : ∀ n < attempts.length,
      report.failures.length + (failuresOf (attempts.take n)).length ≤ ceiling) :
    gather ceiling report (attempts.map Attempt.outcome) =
      ({ report with
          attempted := report.attempted + attempts.length
          objects := report.objects ++ objectsOf attempts
          failures := report.failures ++ failuresOf attempts
          halted := report.halted ||
            decide (ceiling < report.failures.length + (failuresOf attempts).length) },
        (failuresOf attempts).map UnitFailure.toDiagnostic) := by
  induction attempts generalizing report with
  | nil =>
    have hnot : ¬ ceiling < report.failures.length := Nat.not_lt.2 hreport
    simp [objectsOf, failuresOf, hnot]
  | cons a rest ih =>
    have hrest : ∀ n < rest.length,
        report.failures.length + (failuresOf (a :: rest.take n)).length ≤ ceiling := by
      intro n hn
      have h := hwithin (n + 1) (Nat.succ_lt_succ hn)
      rwa [List.take_succ_cons] at h
    rw [List.map_cons]
    cases hfailed : a.hasFailed with
    | false =>
      rw [Attempt.outcome_of_not_hasFailed hfailed, gather_lowered,
        objectsOf_cons_of_not_hasFailed hfailed, failuresOf_cons_of_not_hasFailed hfailed, ih]
      · simp only [List.length_cons, List.append_assoc, List.singleton_append, Nat.add_assoc,
          Nat.add_comm 1]
      · exact hreport
      · intro n hn
        have h := hrest n hn
        rwa [failuresOf_cons_of_not_hasFailed hfailed] at h
    | true =>
      rw [Attempt.outcome_of_hasFailed hfailed, objectsOf_cons_of_hasFailed hfailed,
        failuresOf_cons_of_hasFailed hfailed]
      by_cases hc : ceiling ≤ report.failures.length
      · -- Nothing comes after the failure that is one too many.
        obtain rfl : rest = [] := by
          cases rest with
          | nil => rfl
          | cons a' rest =>
            have h := hrest 0 (Nat.succ_pos _)
            rw [failuresOf_cons_of_hasFailed hfailed, List.length_cons] at h
            omega
        have hlt : ceiling < report.failures.length + 1 := Nat.lt_succ_of_le hc
        rw [List.map_nil, gather_failed_of_le hc]
        simp [objectsOf, failuresOf, hlt]
      · have hlt : report.failures.length < ceiling := Nat.lt_of_not_le hc
        rw [gather_failed_of_lt hlt]
        simp only
        rw [ih]
        · simp only [List.length_append, List.length_cons, List.length_nil, List.append_assoc,
            List.singleton_append, List.map_cons, Nat.add_assoc, Nat.add_comm 1, Nat.zero_add]
        · rw [List.length_append, List.length_singleton]
          exact hlt
        · intro n hn
          have h := hrest n hn
          rw [failuresOf_cons_of_hasFailed hfailed, List.length_cons] at h
          simp only [List.length_append, List.length_cons, List.length_nil]
          omega

/-- What a report on a batch of so many units says of some attempts. -/
def reportOn (total : Nat) (attempts : List Attempt) : LoweringReport where
  total := total
  attempted := attempts.length
  objects := objectsOf attempts
  failures := failuresOf attempts
  halted := decide (failureCeiling total < (failuresOf attempts).length)

/-- What the user is told with such a report. -/
def diagnosticsOn (total : Nat) (attempts : List Attempt) : List Diagnostic :=
  (failuresOf attempts).map UnitFailure.toDiagnostic ++
    if (reportOn total attempts).halted then
      [haltDiagnostic (failureCeiling total) (reportOn total attempts)]
    else []

theorem isError_of_mem_diagnosticsOn {total : Nat} {attempts : List Attempt} :
    ∀ d ∈ diagnosticsOn total attempts, d.severity.isError = true := by
  intro d hd
  rw [diagnosticsOn, List.mem_append, List.mem_map] at hd
  rcases hd with ⟨failure, -, rfl⟩ | hhalt
  · unfold UnitFailure.toDiagnostic Diagnostic.withNote
    split <;> rfl
  · split at hhalt
    · obtain rfl := List.mem_singleton.1 hhalt
      rfl
    · simp at hhalt

/-- The report on the attempts of a batch in turn, and the diagnostics for it. -/
theorem collect_map_outcome {total : Nat} {attempts : List Attempt}
    (hwithin : ∀ n < attempts.length,
      (failuresOf (attempts.take n)).length ≤ failureCeiling total) :
    collect total (attempts.map Attempt.outcome) =
      (reportOn total attempts, diagnosticsOn total attempts) := by
  have hgather := @gather_map_outcome (failureCeiling total) attempts { total } (Nat.zero_le _)
    (by simpa using hwithin)
  simp only [List.length_nil, Nat.zero_add, List.nil_append, Bool.false_or] at hgather
  have hreport : gather (failureCeiling total) { total } (attempts.map Attempt.outcome) =
      (reportOn total attempts, (failuresOf attempts).map UnitFailure.toDiagnostic) := hgather
  rw [collect, diagnosticsOn]
  dsimp only
  rw [hreport]
  cases (reportOn total attempts).halted <;> simp

/-- A batch in turn goes on to its end unless one unit too many has failed. So there is a report of
success if no unit has failed, and then there is an object for every unit. -/
theorem succeeded_reportOn_iff {total : Nat} {attempts : List Attempt}
    (hle : attempts.length ≤ total)
    (hstopped : attempts.length = total ∨ failureCeiling total < (failuresOf attempts).length) :
    ((reportOn total attempts).succeeded = true ↔ failuresOf attempts = []) ∧
      ((reportOn total attempts).succeeded = true ↔ (objectsOf attempts).length = total) := by
  have haccounted := length_objectsOf_add attempts
  have hiff : (reportOn total attempts).succeeded = true ↔ failuresOf attempts = [] := by
    simp only [LoweringReport.succeeded, reportOn, Bool.and_eq_true, List.isEmpty_iff, beq_iff_eq,
      and_iff_left_iff_imp]
    intro hnone
    rw [hnone, List.length_nil] at hstopped
    omega
  refine ⟨hiff, ?_⟩
  rw [hiff, ← List.length_eq_zero_iff]
  constructor
  · intro hnone
    rw [hnone] at hstopped haccounted
    omega
  · intro hall
    omega

/-- One failure too many is all that a batch can have if none but the last is. -/
theorem length_failuresOf_le {ceiling : Nat} {attempts : List Attempt}
    (hwithin : ∀ n < attempts.length, (failuresOf (attempts.take n)).length ≤ ceiling) :
    (failuresOf attempts).length ≤ ceiling + 1 := by
  rcases attempts.eq_nil_or_concat with rfl | ⟨first, last, rfl⟩
  · simp [failuresOf]
  · have hfirst := hwithin first.length (by simp)
    rw [List.concat_eq_append, List.take_left] at hfirst
    have hlast : (failuresOf [last]).length ≤ 1 := by
      rw [failuresOf, List.length_map]
      exact List.length_filter_le _ _
    rw [List.concat_eq_append, failuresOf, List.filter_append, List.map_append, List.length_append]
    exact Nat.add_le_add hfirst hlast

/-! ### The tally of a batch in turn -/

namespace Builder

variable {σ : Type} {b : Builder σ} {r : Request} {units : List Path}
  {st st' : BuildState (List Call × σ)} {outcomes : List UnitOutcome}

/-- The tally of a batch for some units, in turn. -/
structure Tally (b : Builder σ) (r : Request) (units : List Path)
    (st : BuildState (List Call × σ)) (attempts : List Attempt) (report : LoweringReport)
    (st' : BuildState (List Call × σ)) : Prop
    extends b.Attempted r units st attempts report st' where
  /-- The attempts are those at the first units, in the order of the units. -/
  units_eq : attempts.map Attempt.unit = units.take report.attempted
  /-- There is one attempt at each of them. -/
  length_eq : attempts.length = report.attempted
  /-- No more units were attempted than there are. -/
  attempted_le : report.attempted ≤ units.length
  /-- Before the last attempt no unit too many had failed. -/
  within : ∀ k < report.attempted,
    (failuresOf (attempts.take k)).length ≤ min (units.length / 3) 5
  /-- If a unit was left alone, then one too many has failed. -/
  stopped : report.attempted = units.length ∨
    min (units.length / 3) 5 < (failuresOf attempts).length
  /-- The objects are those of the attempts that ended well. -/
  objects_eq : report.objects = objectsOf attempts
  /-- The failures are those of the other attempts. -/
  failures_eq : report.failures = failuresOf attempts
  /-- Every attempt is accounted for. -/
  accounted : report.objects.length + report.failures.length = report.attempted
  /-- The batch was cut short exactly if there is one failure too many. -/
  halted_iff : report.halted = true ↔
    report.failures.length = min (units.length / 3) 5 + 1
  /-- There is never more than one failure too many. -/
  length_failures_le : report.failures.length ≤ min (units.length / 3) 5 + 1
  /-- The report is on all units. -/
  total_eq : report.total = units.length
  /-- It is one of success exactly if no unit has failed. -/
  succeeded_iff : report.succeeded = true ↔ report.failures = []
  /-- It is one of success exactly if there is an object for every unit. -/
  succeeded_iff_length : report.succeeded = true ↔ report.objects.length = units.length
  /-- The user is told of every failure in order, and then whether the batch was cut short. -/
  entries_eq : st'.sink.entries = st.sink.entries ++
    (report.failures.map UnitFailure.toDiagnostic ++
      if report.halted then [haltDiagnostic (min (units.length / 3) 5) report] else [])
  /-- Each of these diagnostics is an error. -/
  errors_eq : st'.sink.errors = st.sink.errors + report.failures.length +
    if report.halted then 1 else 0

/-- **The tally of a batch in turn** is made of its trail. -/
theorem Tally.of_inTurn
    (hrun : (b.logging.lowerUnits r units).run st = (.ok (collect units.length outcomes).1,
      { st' with sink := (collect units.length outcomes).2.foldl Sink.emit st'.sink }))
    (hturn : Batch.InTurn (failureCeiling units.length) 0 (units.map (b.logging.lowerOne r))
      { st with files := (st.files.createDirectories b.cwd r.optDir).2 } outcomes st') :
    ∃ attempts report st'', b.Tally r units st attempts report st'' := by
  obtain ⟨attempts, hunits, rfl, hmakes⟩ :=
    attempts_of_trail hturn.trail (List.map_take ..).symm
  have hlength : (attempts.map Attempt.outcome).length = attempts.length := List.length_map _
  rw [hlength] at hunits
  have hle : attempts.length ≤ units.length := by
    simpa using hturn.length_le
  have hwithin : ∀ n < attempts.length,
      (failuresOf (attempts.take n)).length ≤ failureCeiling units.length := by
    intro n hn
    have h := hturn.within n (by rwa [hlength])
    rwa [Nat.zero_add, failuresBefore_map_outcome] at h
  have hstopped : attempts.length = units.length ∨
      failureCeiling units.length < (failuresOf attempts).length := by
    rcases Nat.lt_or_eq_of_le hle with hlt | heq
    · have h := hturn.halted (by simpa using hlt)
      rw [Nat.zero_add, failuresBefore_map_outcome, hlength, List.take_length] at h
      exact .inr h
    · exact .inl heq
  have hceiling : failureCeiling units.length = min (units.length / 3) 5 := rfl
  have hmost := length_failuresOf_le hwithin
  have hsucceeded := succeeded_reportOn_iff hle hstopped
  rw [collect_map_outcome hwithin] at hrun
  refine ⟨attempts, reportOn units.length attempts, { st' with
    sink := (diagnosticsOn units.length attempts).foldl Sink.emit st'.sink }, ?_⟩
  constructor
  case toAttempted => exact .of_run hrun hmakes
  case units_eq => exact hunits
  case length_eq => rfl
  case attempted_le => exact hle
  case within => exact hwithin
  case stopped => exact hstopped
  case objects_eq => rfl
  case failures_eq => rfl
  case accounted => exact length_objectsOf_add attempts
  case halted_iff =>
    change decide _ = true ↔ (failuresOf attempts).length = _
    rw [decide_eq_true_iff, hceiling]
    rw [hceiling] at hmost
    omega
  case length_failures_le => exact hmost
  case total_eq => rfl
  case succeeded_iff => exact hsucceeded.1
  case succeeded_iff_length => exact hsucceeded.2
  case entries_eq =>
    rw [Sink.entries_foldl_emit, hmakes.sink_eq]
    rfl
  case errors_eq =>
    rw [Sink.errors_foldl_emit isError_of_mem_diagnosticsOn, hmakes.sink_eq, diagnosticsOn,
      List.length_append, List.length_map, ← Nat.add_assoc]
    cases (reportOn units.length attempts).halted <;> rfl

/-- **Every batch in turn** that has a directory for its objects has a tally. -/
theorem exists_tally (hjobs : b.lowering.jobs ≤ 1) (units : List Path)
    (hdir : (st.files.createDirectories b.cwd r.optDir).1 = .ok ()) :
    ∃ attempts report st', b.Tally r units st attempts report st' := by
  have hmake := Step.run_createDirectories b.cwd r.optDir st
  rw [hdir] at hmake
  obtain ⟨outcomes, st', hbatch, hturn⟩ := Batch.run_runInTurn
    (answers_map_lowerOne b.logging r units) (Nat.zero_le (failureCeiling units.length))
    { st with files := (st.files.createDirectories b.cwd r.optDir).2 }
  have hrun : (b.logging.runBatch (units.map (b.logging.lowerOne r))).run
      { st with files := (st.files.createDirectories b.cwd r.optDir).2 } = (.ok outcomes, st') := by
    rw [runBatch_of_jobs_le_one (b := b.logging) hjobs, List.length_map, hbatch]
  have hlower := run_lowerBatch (b := b.logging) hmake hrun
  rw [List.length_map] at hlower
  exact Tally.of_inTurn hlower hturn

variable {attempts : List Attempt} {report : LoweringReport}

/-- All units were attempted if the report is one of success. -/
theorem Tally.units_eq_of_succeeded (h : b.Tally r units st attempts report st')
    (hs : report.succeeded = true) : attempts.map Attempt.unit = units := by
  have haccounted := h.accounted
  rw [h.succeeded_iff.1 hs, List.length_nil, Nat.add_zero,
    h.succeeded_iff_length.1 hs] at haccounted
  rw [h.units_eq, ← haccounted, List.take_length]

/-- Then the objects are those of all units. -/
theorem Tally.objects_eq_of_succeeded (h : b.Tally r units st attempts report st')
    (hs : report.succeeded = true) : report.objects = units.map Request.objectFor := by
  have hnone : failuresOf attempts = [] := h.failures_eq ▸ h.succeeded_iff.1 hs
  rw [h.objects_eq, objectsOf_eq_map hnone, h.units_eq_of_succeeded hs]

/-- A report that counts a failure stops the second step, and any other lets it end well. -/
theorem Tally.judged_eq (h : b.Tally r units st attempts report st') :
    ((∃ failed total, judged report = .error (.loweringFailed failed total)) ↔
        ∃ a ∈ attempts, a.hasFailed = true) ∧
      (∀ e, judged report = .error e →
        e = .loweringFailed report.failures.length units.length ∧
          1 ≤ report.failures.length ∧
          report.failures.length ≤ min (units.length / 3) 5 + 1) := by
  have hsome : ¬ report.succeeded = true ↔ ∃ a ∈ attempts, a.hasFailed = true := by
    rw [h.succeeded_iff, h.failures_eq, failuresOf_eq_nil_iff]
    simp
  rw [← hsome]
  by_cases hs : report.succeeded = true
  · rw [judged, if_pos hs]
    simp [hs]
  · rw [judged, if_neg hs, h.total_eq]
    refine ⟨iff_of_true ⟨_, _, rfl⟩ hs, fun e he => ⟨(Except.error.inj he).symm, ?_, ?_⟩⟩
    · exact List.length_pos_iff.2 fun hnil => hs (h.succeeded_iff.2 hnil)
    · exact h.length_failures_le

/-- **The tally of a batch.** If units are lowered in turn then every batch that has a directory for
its objects has a tally; and the second step, once there is a manifest, ends with the report of that
tally or with the number of its failures. -/
theorem tally (hjobs : b.lowering.jobs ≤ 1) (r : Request) (st : BuildState (List Call × σ)) :
    (∀ units,
      (∀ fault, (st.files.createDirectories b.cwd r.optDir).1 = .error fault →
        (b.logging.lowerUnits r units).run st = (.error (.file r.optDir fault),
          { st with files := (st.files.createDirectories b.cwd r.optDir).2 })) ∧
      ((st.files.createDirectories b.cwd r.optDir).1 = .ok () →
        ∃ attempts report st', b.Tally r units st attempts report st')) ∧
    ∀ path manifest, Manifest.load st.files b.cwd path = .ok manifest →
      (st.files.createDirectories b.cwd r.optDir).1 = .ok () →
      ∃ attempts report st', b.Tally r (manifest.units r.outputDir) st attempts report st' ∧
        ((b.logging.lowerStep r path).run st).2 = st' ∧
        ((∃ failed total, ((b.logging.lowerStep r path).run st).1 =
            .error (.loweringFailed failed total)) ↔
          ∃ a ∈ attempts, a.hasFailed = true) ∧
        (∀ report', ((b.logging.lowerStep r path).run st).1 = .ok report' → report' = report) ∧
        ∀ e, ((b.logging.lowerStep r path).run st).1 = .error e →
          e = .loweringFailed report.failures.length (manifest.units r.outputDir).length ∧
            1 ≤ report.failures.length ∧
            report.failures.length ≤ min ((manifest.units r.outputDir).length / 3) 5 + 1 := by
  constructor
  · intro units
    exact ⟨fun fault => run_lowerUnits_of_error units, exists_tally hjobs units⟩
  · intro path manifest hload hdir
    obtain ⟨attempts, report, st', htally⟩ :=
      exists_tally (r := r) hjobs (manifest.units r.outputDir) hdir
    have hstep : (b.logging.lowerStep r path).run st = (judged report, st') := by
      have hload' : Manifest.load st.files b.logging.cwd path = .ok manifest := hload
      rw [run_lowerStep, hload']
      dsimp only
      rw [htally.run_eq]
      rfl
    refine ⟨attempts, report, st', htally, by rw [hstep], ?_, ?_, ?_⟩
    · rw [hstep]
      exact htally.judged_eq.1
    · rw [hstep]
      intro report' hjudged
      exact (judged_eq_ok.1 hjudged).2.symm
    · rw [hstep]
      exact htally.judged_eq.2

/-- Tools of which every second call fails. -/
def everySecond : Builder Nat where
  runner.run _ files count := (.ok { code := some (Int.ofNat (count % 2)) }, files, count + 1)
  toolchain := ⟨⟨"/debase"⟩, ⟨"/llc"⟩⟩
  lowering := {}
  cwd := []

/-- A manifest of five units, and nothing else. -/
def fiveUnits : FileTree :=
  { entries := [("w", .directory [("lib", .directory [("app.json",
      .file (Utf8.encode "\x7b\"files\": [\"a\", \"b\", \"c\", \"d\", \"e\"]\x7d") false)])])] }

/-- Of five units the second and the fourth fail. A third of five is one, so the second failure is
one too many, and the fifth unit is left alone. -/
theorem tally_everySecond :
    everySecond.lowering.jobs ≤ 1 ∧
    (∃ manifest attempts report st', Manifest.load fiveUnits [] ⟨"/w/lib/app.json"⟩ = .ok manifest ∧
      everySecond.Tally smallRequest (manifest.units smallRequest.outputDir)
        ⟨fiveUnits, ([], 0), .empty⟩ attempts report st' ∧
      (∃ a ∈ attempts, a.hasFailed = true) ∧
      report.failures.length = min (5 / 3) 5 + 1 ∧ report.halted = true) ∧
    ((everySecond.logging.lowerStep smallRequest ⟨"/w/lib/app.json"⟩).run
      ⟨fiveUnits, ([], 0), .empty⟩).2.tools.1.length = 4 := by
  have hloaded : (Manifest.load fiveUnits [] ⟨"/w/lib/app.json"⟩).toOption.isSome = true := by
    decide +kernel
  have hfailed : (match ((everySecond.logging.lowerStep smallRequest ⟨"/w/lib/app.json"⟩).run
      ⟨fiveUnits, ([], 0), .empty⟩).1 with
    | .error e => some e
    | .ok _ => none) = some (.loweringFailed 2 5) := by decide +kernel
  refine ⟨by decide, ?_, by decide +kernel⟩
  rcases hload : Manifest.load fiveUnits [] ⟨"/w/lib/app.json"⟩ with e | manifest
  · rw [hload] at hloaded
    simp [Except.toOption] at hloaded
  obtain ⟨attempts, report, st', htally, -, hiff, -, herror⟩ :=
    (tally (b := everySecond) (by decide) smallRequest ⟨fiveUnits, ([], 0), .empty⟩).2
      ⟨"/w/lib/app.json"⟩ manifest hload rfl
  split at hfailed
  case h_2 => simp at hfailed
  rename_i e he
  obtain rfl := Option.some.inj hfailed
  obtain ⟨heq, -, -⟩ := herror _ he
  obtain ⟨hcount, htotal⟩ := BuildError.loweringFailed.inj heq
  refine ⟨manifest, attempts, report, st', rfl, htally, hiff.1 ⟨2, 5, he⟩, hcount.symm, ?_⟩
  rw [htally.halted_iff, ← htotal, ← hcount]
  rfl

end Builder

end ModuleBuild
