import ModuleBuild.Diagnostic.Basic
import ModuleBuild.Text.Blank

/-!
# The report on a batch of units

Every unit of a manifest is lowered to an object on its own. A unit that fails is reported, and the
others go on, until more units have failed than the batch may lose; then the rest is left alone.

The report is made from the outcomes of the units alone, in the order of the manifest. What became
of a unit behind the failure that was one too many does not show in it, so the report is the same
however the work was scheduled.

## Main definitions

* `failureCeiling` — how many failures a batch may have
* `UnitOutcome` — what became of one unit
* `LoweringReport`, `collect` — the report on the outcomes, and the diagnostics for it

## Main results

* `objects_collect` — the objects in a report, and how many there are in one of success
-/

namespace ModuleBuild

/-- No batch may have more failures than this. -/
def greatestCeiling : Nat := 5

/-- How many failures a batch may have: a third of it, and never more than five. -/
def failureCeiling (total : Nat) : Nat := min (total / 3) greatestCeiling

/-- A unit that could not be lowered. -/
structure UnitFailure where
  /-- The unit. -/
  unit : Path
  /-- The exit code of the tool, if it ended with one. -/
  code : Option Int
  /-- What the tool wrote, or why it could not start. -/
  stderr : String
  deriving DecidableEq

/-- What became of a unit. -/
inductive UnitOutcome where
  /-- It was lowered to an object. -/
  | lowered (object : Path)
  /-- It could not be lowered. -/
  | failed (failure : UnitFailure)
  /-- It was left alone. -/
  | skipped
  deriving DecidableEq

/-- Whether a unit could not be lowered. -/
def UnitOutcome.isFailed : UnitOutcome → Bool
  | failed _ => true
  | _ => false

/-- The object of a unit that was lowered. -/
def UnitOutcome.object? : UnitOutcome → Option Path
  | lowered object => some object
  | _ => none

/-- The report on a batch. -/
structure LoweringReport where
  /-- The objects, seen from the output directory, in the order of the manifest. -/
  objects : List Path := []
  /-- The units that failed, in the order of the manifest. -/
  failures : List UnitFailure := []
  /-- How many units were attempted. -/
  attempted : Nat := 0
  /-- How many units the batch has. -/
  total : Nat
  /-- Whether the batch was cut short. -/
  halted : Bool := false
  deriving DecidableEq

/-- Whether every unit was lowered. -/
def LoweringReport.succeeded (r : LoweringReport) : Bool :=
  r.failures.isEmpty && r.attempted == r.total

/-- The diagnostic for a unit that failed. -/
def UnitFailure.toDiagnostic (f : UnitFailure) : Diagnostic :=
  ((Diagnostic.error s!"failed to run llc on {f.unit.shown}!").withPath f.unit).withNote
    (Text.trim f.stderr)

/-- Takes outcomes into a report one by one, up to the failure that is one too many, and gives the
diagnostics for them. -/
def gather (ceiling : Nat) (r : LoweringReport) :
    List UnitOutcome → LoweringReport × List Diagnostic
  | [] => (r, [])
  | .lowered object :: rest =>
    gather ceiling { r with attempted := r.attempted + 1, objects := r.objects ++ [object] } rest
  | .failed failure :: rest =>
    let r := { r with attempted := r.attempted + 1, failures := r.failures ++ [failure] }
    if r.failures.length > ceiling then
      ({ r with halted := true }, [failure.toDiagnostic])
    else
      let (r, ds) := gather ceiling r rest
      (r, failure.toDiagnostic :: ds)
  | .skipped :: rest => gather ceiling r rest

/-- The diagnostic for a batch that was cut short. -/
def haltDiagnostic (ceiling : Nat) (r : LoweringReport) : Diagnostic :=
  (Diagnostic.error <|
    s!"too many lowering failures ({r.failures.length} > {ceiling}), " ++
      s!"{r.total - r.attempted} unit(s) not attempted").withHelp
    "check that the manifest lists valid bytecode units"

/-- The report on the outcomes of a batch, and the diagnostics for it. -/
def collect (total : Nat) (outcomes : List UnitOutcome) : LoweringReport × List Diagnostic :=
  let ceiling := failureCeiling total
  let (r, ds) := gather ceiling { total } outcomes
  (r, if r.halted then ds ++ [haltDiagnostic ceiling r] else ds)

@[simp] theorem gather_nil (ceiling : Nat) (r : LoweringReport) :
    gather ceiling r [] = (r, []) := rfl

/-- A unit that was left alone leaves no trace. -/
@[simp] theorem gather_skipped (ceiling : Nat) (r : LoweringReport) (rest : List UnitOutcome) :
    gather ceiling r (.skipped :: rest) = gather ceiling r rest := rfl

theorem gather_lowered (ceiling : Nat) (r : LoweringReport) (object : Path)
    (rest : List UnitOutcome) :
    gather ceiling r (.lowered object :: rest) =
      gather ceiling
        { r with attempted := r.attempted + 1, objects := r.objects ++ [object] } rest := rfl

/-- Behind the failure that is one too many nothing is looked at. -/
theorem gather_failed_of_le {ceiling : Nat} {r : LoweringReport}
    (h : ceiling ≤ r.failures.length) (failure : UnitFailure) (rest : List UnitOutcome) :
    gather ceiling r (.failed failure :: rest) =
      ({ r with
          attempted := r.attempted + 1, failures := r.failures ++ [failure], halted := true },
        [failure.toDiagnostic]) := by
  simp [gather, Nat.lt_succ_of_le h]

/-- A failure that is not one too many is reported, and the rest is looked at. -/
theorem gather_failed_of_lt {ceiling : Nat} {r : LoweringReport}
    (h : r.failures.length < ceiling) (failure : UnitFailure) (rest : List UnitOutcome) :
    gather ceiling r (.failed failure :: rest) =
      let reported : LoweringReport :=
        { r with attempted := r.attempted + 1, failures := r.failures ++ [failure] }
      ((gather ceiling reported rest).1,
        failure.toDiagnostic :: (gather ceiling reported rest).2) := by
  have hle : ¬ (r.failures ++ [failure]).length > ceiling := by
    rw [List.length_append, List.length_singleton]
    omega
  simp only [gather, if_neg hle]

/-- A report lists objects that were found, in the order in which they were found. -/
theorem objects_gather (ceiling : Nat) (report : LoweringReport) (found : List UnitOutcome) :
    ∃ objects, objects.Sublist (found.filterMap UnitOutcome.object?) ∧
      (gather ceiling report found).1.objects = report.objects ++ objects := by
  induction found generalizing report with
  | nil => exact ⟨[], List.Sublist.slnil, (List.append_nil _).symm⟩
  | cons outcome rest ih =>
    cases outcome with
    | lowered object =>
      obtain ⟨objects, hsub, hobjects⟩ := ih
        { report with
          attempted := report.attempted + 1, objects := report.objects ++ [object] }
      refine ⟨object :: objects, hsub.cons_cons object, ?_⟩
      rw [gather_lowered, hobjects, List.append_assoc, List.singleton_append]
    | skipped => exact ih report
    | failed failure =>
      by_cases hc : ceiling ≤ report.failures.length
      · rw [gather_failed_of_le hc]
        exact ⟨[], List.nil_sublist _, (List.append_nil _).symm⟩
      · rw [gather_failed_of_lt (Nat.lt_of_not_le hc)]
        exact ih { report with
          attempted := report.attempted + 1, failures := report.failures ++ [failure] }

/-- Whatever is attempted is an object or a failure in the report. -/
theorem attempted_gather {ceiling : Nat} {report : LoweringReport} (found : List UnitOutcome)
    (h : report.attempted = report.objects.length + report.failures.length) :
    (gather ceiling report found).1.attempted =
        (gather ceiling report found).1.objects.length +
          (gather ceiling report found).1.failures.length ∧
      (gather ceiling report found).1.total = report.total := by
  induction found generalizing report with
  | nil => exact ⟨h, rfl⟩
  | cons outcome rest ih =>
    cases outcome with
    | lowered object =>
      rw [gather_lowered]
      refine ih ?_
      simp only [List.length_append, List.length_singleton, h]
      omega
    | skipped => exact ih h
    | failed failure =>
      have hadd : report.attempted + 1 =
          report.objects.length + (report.failures ++ [failure]).length := by
        simp only [List.length_append, List.length_singleton, h]
        omega
      by_cases hc : ceiling ≤ report.failures.length
      · rw [gather_failed_of_le hc]
        exact ⟨hadd, rfl⟩
      · rw [gather_failed_of_lt (Nat.lt_of_not_le hc)]
        exact @ih { report with
          attempted := report.attempted + 1, failures := report.failures ++ [failure] } hadd

/-- A report lists objects that were found, and as many as there are units if it is one of
success. -/
theorem objects_collect (total : Nat) (found : List UnitOutcome) :
    (collect total found).1.objects.Sublist (found.filterMap UnitOutcome.object?) ∧
      ((collect total found).1.succeeded = true →
        (collect total found).1.objects.length = total) := by
  have hcollect : (collect total found).1 = (gather (failureCeiling total) { total } found).1 := rfl
  rw [hcollect]
  constructor
  · obtain ⟨objects, hsub, hobjects⟩ := objects_gather (failureCeiling total) { total } found
    rw [hobjects]
    exact hsub
  · intro hs
    obtain ⟨hattempted, htotal⟩ := @attempted_gather (failureCeiling total) { total } found rfl
    simp only [LoweringReport.succeeded, Bool.and_eq_true, List.isEmpty_iff, beq_iff_eq,
      htotal] at hs
    rw [hs.1, List.length_nil, Nat.add_zero] at hattempted
    exact hattempted.symm.trans hs.2

end ModuleBuild
