import ModuleBuild.Proofs.Build.Views

/-!
# Builds that keep notes

A builder whose runner keeps notes on the tool calls does what the builder does whose runner keeps
none: the view that drops the notes shows the one as the other. So the notes say what the tools of a
build are asked to do, and do not disturb it.

## Main definitions

* `BuildState.forget` — a state without the notes
* `Step.Forgets` — a step that does the same as another one, and keeps notes besides

## Main results

* `Builder.forgets_build` — the whole build
-/

namespace ModuleBuild

variable {α β γ σ : Type}

/-- The same state without the notes. -/
def BuildState.forget (st : BuildState (List α × σ)) : BuildState σ where
  files := st.files
  tools := st.tools.2
  sink := st.sink

/-- The first step does what the second one does, and keeps notes besides. -/
def Step.Forgets (s' : Step (List α × σ) β) (s : Step σ β) : Prop :=
  ∀ st, s.run st.forget = ((s'.run st).1, (s'.run st).2.forget)

/-- What is seen without the notes. -/
theorem Step.Shows.forgets {s' : Step (List α × σ) β} {s : Step σ β}
    (h : s'.Shows Prod.snd s) : s'.Forgets s := h

/-- Without the notes, a runner that keeps them is the runner that keeps none. -/
theorem Runner.shows_noting (note : Invocation → Except FileFault ToolOutput → α)
    (runner : Runner σ) : (runner.noting note).Shows Prod.snd runner := fun _ _ _ => rfl

namespace Builder

variable {note : Invocation → Except FileFault ToolOutput → α} {b : Builder σ} {r : Request}

theorem forgets_debase :
    ((b.withRunner (b.runner.noting note)).debase r).Forgets (b.debase r) :=
  (shows_debase (b.runner.shows_noting note)).forgets

theorem forgets_lowerUnits (units : List Path) :
    ((b.withRunner (b.runner.noting note)).lowerUnits r units).Forgets (b.lowerUnits r units) :=
  (shows_lowerUnits (b.runner.shows_noting note) units).forgets

/-- **Keeping notes changes nothing** of what a build does. -/
theorem forgets_build : ((b.withRunner (b.runner.noting note)).build r).Forgets (b.build r) :=
  (shows_build (b.runner.shows_noting note)).forgets

end Builder

end ModuleBuild
