import ModuleBuild.Proofs.Command.Reporting
import ModuleBuild.Proofs.Diagnostic.Document

/-!
# The report of a build as JSON

A command that reports as JSON prints the diagnostics at the end as one document, a list of all that
the build has left, with the one for the reason that stopped it at the end. Nothing else is printed
to the output, unless what is done is to be dumped: the lines of progress and the calls go to the
error output. So the output can be read back, and what is read is what the build has to say, as far
as that can be written: a path that no text spells cannot, and then the list is an empty one.

## Builds that have nothing to say

Without a diagnostic nothing is printed, not even an empty list, whatever the format is. So the
output of a build that went well and has nothing to say is empty, and the empty text is not JSON:
`Command.not_always_json` shows such a build, and one that has something to say which cannot be
written. A build that fails always has something to say.

## Main definitions

* `Command.reported` — what a build has to say at its end
* `Command.Printing.output` — the output so far, and the tools
* `Command.carrying` — a runner that has something with it, and does not touch it

## Main results

* `Command.output_buildSteps` — the steps of a command print nothing to the output
* `Command.prints_reported` — the output of a command that reports as JSON
-/

namespace ModuleBuild

open Json

variable {α σ : Type}

namespace Command

/-- What a build has to say at its end: the diagnostics that it has left, and then the one for the
reason that stopped it. -/
def reported (ended : Except BuildError α × BuildState σ) : List Diagnostic :=
  ended.2.sink.entries ++
    match ended.1 with
    | .ok _ => []
    | .error e => [e.toDiagnostic]

/-- A build that fails has something to say. -/
theorem reported_ne_nil {ended : Except BuildError α × BuildState σ} {e : BuildError}
    (h : ended.1 = .error e) : reported ended ≠ [] := by
  simp [reported, h]

/-- The document for what a build has to say, on lines of its own. There is none if it has nothing
to say. -/
def reportText (l : List Diagnostic) : String :=
  if l.isEmpty then "" else Diagnostic.report l ++ "\n"

/-! ### The output on the way -/

/-- The output so far, and the tools. -/
def Printing.output (p : Printing σ) : String × σ := (p.console.out, p.tools)

/-- A runner that has something with it, and does not touch it. -/
def carrying (α : Type) (runner : Runner σ) : Runner (α × σ) where
  run i files state :=
    match runner.run i files state.2 with
    | (answer, files, tools) => (answer, files, (state.1, tools))

/-- Whatever it has with it, such a runner does what the runner does without it. -/
theorem shows_carrying (a : α) (runner : Runner σ) :
    runner.Shows (Prod.mk a) (carrying α runner) := fun _ _ _ => rfl

/-- The line for a tool call does not go to the output. -/
theorem echoing_shows_output (verbose : Bool) (runner : Runner σ) :
    (echoing verbose runner).Shows Printing.output (carrying String runner) := by
  intro i files state
  cases verbose <;> rfl

/-- A step that does not print to the output is not seen. -/
theorem changeConsole_shows_output {f : Console → Console} (hf : ∀ c, (f c).out = c.out) :
    (changeConsole f : Step (Printing σ) Unit).Shows Printing.output (pure ()) := by
  intro st
  have hseen : (⟨st.files, ((f st.tools.console).out, st.tools.tools), st.sink⟩ :
      BuildState (String × σ)) = st.view Printing.output := by
    rw [hf]
    rfl
  exact congrArg (Prod.mk (Except.ok ())) hseen.symm

/-- A line of progress does not go to the output. -/
theorem progress_shows_output (g : GlobalOptions) (line : String) :
    (progress g line : Step (Printing σ) Unit).Shows Printing.output (pure ()) := by
  refine changeConsole_shows_output fun c => ?_
  split <;> rfl

/-- What is not to be dumped is not printed. -/
theorem dump_shows_output {a : BuildArguments} (hdump : a.dump = false) (line : String) :
    (dump a line : Step (Printing σ) Unit).Shows Printing.output (pure ()) := by
  refine changeConsole_shows_output fun c => ?_
  rw [hdump]
  rfl

variable {b : Builder σ} {r : Request} {a : BuildArguments} {g : GlobalOptions}
  {files : FileTree} {tools : σ}

/-- **The steps of a command print nothing to the output,** unless what is done is to be dumped.
They end as the build does, with the same diagnostics. -/
theorem output_buildSteps (hdump : a.dump = false) (b : Builder σ) (r : Request)
    (g : GlobalOptions) (files : FileTree) (tools : σ) :
    let steps := (buildSteps (echoingBuilder g.verbose b) r a g).run ⟨files, ⟨{}, tools⟩, .empty⟩
    steps.2.tools.console.out = "" ∧
      reported steps = reported ((b.build r).run ⟨files, tools, .empty⟩) := by
  intro steps
  -- the steps are seen as a build that has the empty output with it
  have hsteps := shows_buildSteps_of (echoing_shows_output g.verbose b.runner)
    (progress_shows_output g) (dump_shows_output hdump) r ⟨files, ⟨{}, tools⟩, .empty⟩
  have hbuild := Builder.shows_build (b := b.withRunner (carrying String b.runner)) (r := r)
    (shows_carrying "" b.runner) ⟨files, tools, .empty⟩
  obtain ⟨hended, hview⟩ := Prod.mk.inj (hsteps.symm.trans hbuild)
  have hsink : steps.2.sink = ((b.build r).run ⟨files, tools, .empty⟩).2.sink :=
    congrArg BuildState.sink hview
  replace hended : steps.1 = ((b.build r).run ⟨files, tools, .empty⟩).1 := hended
  exact ⟨congrArg (fun st => st.tools.1) hview, by rw [reported, reported, hended, hsink]⟩

/-! ### The output at the end -/

/-- Diagnostics that are shown as JSON go to the output. -/
theorem out_showDiagnostics (hformat : a.format = .json) (g : GlobalOptions)
    (l : List Diagnostic) (c : Console) :
    (showDiagnostics a g l c).out = c.out ++ reportText l := by
  unfold showDiagnostics reportText
  split
  · exact (String.append_empty ..).symm
  · rw [hformat, ← String.append_assoc]
    rfl

/-- All diagnostics are shown as JSON, notes among them. -/
theorem shownDiagnostics_eq (hformat : a.format = .json) (g : GlobalOptions)
    (held : List Diagnostic) (stopped : Option BuildError) :
    shownDiagnostics a g held stopped =
      held ++ (stopped.map BuildError.toDiagnostic).toList := by
  simp [shownDiagnostics, hformat]

/-- The end of a command prints to the output what the build has to say. -/
theorem out_execute_of (hformat : a.format = .json)
    {result : Except BuildError BuildOutcome} {st : BuildState (Printing σ)}
    (hrun : (buildSteps (echoingBuilder g.verbose b) r a g).run ⟨files, ⟨{}, tools⟩, .empty⟩ =
      (result, st)) :
    (execute b r a g files tools).1.console.out =
      st.tools.console.out ++ reportText (reported (result, st)) := by
  unfold execute
  extract_lets start
  replace hrun : (buildSteps (echoingBuilder g.verbose b) r a g).run start = (result, st) := hrun
  rw [hrun]
  rcases result with e | outcome
  · dsimp only
    rw [out_showDiagnostics hformat, shownDiagnostics_eq hformat]
    rfl
  · -- the last line of progress goes to the error output
    dsimp only
    rw [out_showDiagnostics hformat, shownDiagnostics_eq hformat]
    split
    · rfl
    · rfl

/-- **The output of a command** is the document for what the build has to say, if it has something
to say. -/
theorem out_execute (hformat : a.format = .json) (hdump : a.dump = false) (b : Builder σ)
    (r : Request) (g : GlobalOptions) (files : FileTree) (tools : σ) :
    (execute b r a g files tools).1.console.out =
      reportText (reported ((b.build r).run ⟨files, tools, .empty⟩)) := by
  obtain ⟨hout, hreported⟩ := output_buildSteps hdump b r g files tools
  rw [← hreported]
  rcases hrun : (buildSteps (echoingBuilder g.verbose b) r a g).run ⟨files, ⟨{}, tools⟩, .empty⟩
    with ⟨result, st⟩
  rw [hrun] at hout
  replace hout : st.tools.console.out = "" := hout
  rw [out_execute_of hformat hrun, hout, String.empty_append]

theorem reportText_of_ne_nil {l : List Diagnostic} (h : l ≠ []) :
    reportText l = Diagnostic.report l ++ "\n" :=
  if_neg (by rwa [List.isEmpty_iff])

/-- What is printed is a document, and what is read from it is what the build has to say. -/
theorem document_reportText {l : List Diagnostic} (h : l ≠ []) (hspelled : ∀ d ∈ l, d.IsSpelled) :
    Document (.list (l.map fun d => d.written.tree)) (reportText l) := by
  rw [reportText_of_ne_nil h]
  exact (Diagnostic.document_report hspelled).append (by simp [IsBlanks])

/-- If it cannot be written, the empty list is printed. -/
theorem reportText_of_not_isSpelled {l : List Diagnostic} (h : ∃ d ∈ l, ¬ d.IsSpelled) :
    reportText l = "[]\n" := by
  obtain ⟨d, hd, -⟩ := id h
  rw [reportText_of_ne_nil (List.ne_nil_of_mem hd), Diagnostic.report_of_not_isSpelled h]
  rfl

theorem document_empty_list : Document (.list []) "[]\n" := by
  have hreport : Document (.list []) (Diagnostic.report []) :=
    Diagnostic.document_report (l := []) (by simp)
  have hline : "[]\n" = Diagnostic.report [] ++ "\n" := by rfl
  rw [hline]
  exact hreport.append (by simp [IsBlanks])

/-- **What a command that reports as JSON prints to the output.** If the build has something to say,
it is one document, a list, from which all of it is read back in order: the diagnostics that are
left and then the one for the reason that stopped the build. This takes that texts spell the paths
in them; otherwise the list is an empty one. If the build has nothing to say, nothing is printed. So
the output is JSON just if the build has something to say, and this is so whenever it fails. -/
theorem prints_reported (b : Builder σ) (r : Request) (a : BuildArguments) (g : GlobalOptions)
    (files : FileTree) (tools : σ) (hformat : a.format = .json) (hdump : a.dump = false) :
    let ended := (b.build r).run ⟨files, tools, .empty⟩
    let out := (execute b r a g files tools).1.console.out
    (reported ended ≠ [] → (∀ d ∈ reported ended, d.IsSpelled) →
      ∃ objects, (reported ended).mapM Diagnostic.toJson? = some objects ∧
        Document (.list (objects.map Json.tree)) out ∧
        Diagnostic.ofReport out = .ok (reported ended)) ∧
    ((∃ d ∈ reported ended, ¬ d.IsSpelled) → out = "[]\n" ∧ Document (.list []) out) ∧
    (reported ended = [] → out = "") ∧
    ((∃ v, Document v out) ↔ reported ended ≠ []) ∧
    ∀ e, ended.1 = .error e → reported ended ≠ [] := by
  intro ended out
  have hout : out = reportText (reported ended) := out_execute hformat hdump b r g files tools
  have hempty : reported ended = [] → out = "" := by
    intro hnone
    rw [hout, hnone]
    rfl
  have hwritten : reported ended ≠ [] → (∀ d ∈ reported ended, d.IsSpelled) →
      Document (.list ((reported ended).map fun d => d.written.tree)) out := by
    intro hsome hspelled
    rw [hout]
    exact document_reportText hsome hspelled
  have hunwritten : (∃ d ∈ reported ended, ¬ d.IsSpelled) →
      out = "[]\n" ∧ Document (.list []) out := by
    intro hnot
    rw [hout, reportText_of_not_isSpelled hnot]
    exact ⟨rfl, document_empty_list⟩
  refine ⟨?_, hunwritten, hempty, ⟨?_, ?_⟩, fun e he => reported_ne_nil he⟩
  · intro hsome hspelled
    refine ⟨_, Diagnostic.mapM_toJson? hspelled, ?_, ?_⟩
    · rw [List.map_map]
      exact hwritten hsome hspelled
    · exact Diagnostic.ofReport_of_document hspelled (hwritten hsome hspelled)
  · rintro ⟨v, hv⟩ hnone
    rw [hempty hnone] at hv
    exact not_document_empty v hv
  · intro hsome
    by_cases hspelled : ∀ d ∈ reported ended, d.IsSpelled
    · exact ⟨_, hwritten hsome hspelled⟩
    · exact ⟨_, (hunwritten (by simpa using hspelled)).2⟩

/-- The same command line as `plainArguments`, and a report as JSON. -/
def jsonArguments : BuildArguments := { plainArguments with format := .json }

/-- What the tool that fails has written is read back from the output. -/
theorem prints_reported_failing :
    let out := (execute failingBuilder Builder.smallRequest jsonArguments { verbose := true }
      Builder.smallTree ()).1.console.out
    let failed := (Diagnostic.error "failed to run debase!").withNote "no"
    jsonArguments.format = .json ∧ jsonArguments.dump = false ∧
    reported ((failingBuilder.build Builder.smallRequest).run ⟨Builder.smallTree, (), .empty⟩) =
      [failed] ∧
    Document (.list [(failed.object none).tree]) out ∧ Diagnostic.ofReport out = .ok [failed] := by
  intro out failed
  have hreported : reported ((failingBuilder.build Builder.smallRequest).run
      ⟨Builder.smallTree, (), .empty⟩) = [failed] := by decide +kernel
  obtain ⟨hread, -⟩ := prints_reported failingBuilder Builder.smallRequest jsonArguments
    { verbose := true } Builder.smallTree () rfl rfl
  rw [hreported] at hread
  obtain ⟨objects, hobjects, hdocument, hofReport⟩ := hread (List.cons_ne_nil _ _)
    (List.forall_mem_singleton.2 ⟨none, rfl⟩)
  obtain rfl : [failed.object none] = objects := Option.some.inj hobjects
  exact ⟨rfl, rfl, hreported, hdocument, hofReport⟩

/-- A request for a target that is not there, in a directory whose name spells no text. -/
def lostRequest : Request := { Builder.smallRequest with outputDir := ⟨"/w\u00ff"⟩ }

/-- What a build for it has to say. -/
def lostDiagnostic : Diagnostic := (BuildError.targetMissing ⟨"/w\u00ff/app.bc"⟩).toDiagnostic

/-- **The output is not always JSON.** A build that goes well and has nothing to say prints nothing.
And it is not always all that the build has to say: a path that no text spells is not printed. -/
theorem not_always_json :
    (¬ ∀ (b : Builder Unit) (r : Request) (a : BuildArguments) (g : GlobalOptions)
      (files : FileTree), a.format = .json → a.dump = false →
        ∃ v, Document v (execute b r a g files ()).1.console.out) ∧
    ¬ ∀ (b : Builder Unit) (r : Request) (a : BuildArguments) (g : GlobalOptions)
      (files : FileTree), a.format = .json → a.dump = false →
        (∃ e, ((b.build r).run ⟨files, (), .empty⟩).1 = .error e) →
          Diagnostic.ofReport (execute b r a g files ()).1.console.out =
            .ok (reported ((b.build r).run ⟨files, (), .empty⟩)) := by
  constructor
  · intro h
    obtain ⟨v, hv⟩ := h Builder.smallBuilder Builder.smallRequest jsonArguments {}
      Builder.smallTree rfl rfl
    have hnone : reported ((Builder.smallBuilder.build Builder.smallRequest).run
        ⟨Builder.smallTree, (), .empty⟩) = [] := by decide +kernel
    rw [out_execute rfl rfl, hnone] at hv
    exact not_document_empty v hv
  · intro h
    have hlost : reported ((Builder.smallBuilder.build lostRequest).run
        ⟨Builder.smallTree, (), .empty⟩) = [lostDiagnostic] := by decide +kernel
    have hnot : ¬ lostDiagnostic.IsSpelled := Diagnostic.toJson?_eq_none.1 (by decide +kernel)
    have hread := h Builder.smallBuilder lostRequest jsonArguments {} Builder.smallTree rfl rfl
      ⟨.targetMissing lostRequest.targetPath, by rfl⟩
    rw [out_execute rfl rfl, hlost, reportText_of_not_isSpelled ⟨_, List.mem_cons_self, hnot⟩,
      Diagnostic.ofReport_of_document (l := []) (by simp) document_empty_list] at hread
    exact absurd (Except.ok.inj hread) (List.cons_ne_nil _ _).symm

end Command

end ModuleBuild
