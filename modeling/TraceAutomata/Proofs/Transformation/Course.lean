import TraceAutomata.Transformation

/-!
# The course of a transformation

A transformation is a run of steps, and what holds of all runs comes from what one step keeps.
`runFrom_ended` and `runFrom_unfinished` are the two equations of a run, and `runFrom_induction` carries
a property of workspaces and stages from one step to the end of the run.

`claimed_step` says that the context is claimed exactly at the stages between the claim and the release, so
a run on a free context leaves it free (`claimed_run`).
-/

namespace TraceAutomata

/-- Only the last stage has a verdict. -/
theorem Stage.eq_ended_of_verdict? {stage : Stage} {verdict : Verdict}
    (found : stage.verdict? = some verdict) : stage = .ended verdict := by
  cases stage with
  | ended ending =>
    cases found
    rfl
  | _ => cases found

namespace Transformation

variable [Runtime] {job : Job} {workspace : Workspace} {stage : Stage}

/-- A run that has ended stays as it is. -/
theorem runFrom_ended (job : Job) (workspace : Workspace) (verdict : Verdict) :
    runFrom job workspace (.ended verdict) = ⟨workspace, [], verdict⟩ := by
  rw [runFrom]
  rfl

/-- Go on from a step to the end. -/
def Moved.goOn (job : Job) (moved : Moved) : Ended :=
  let rest := runFrom job moved.workspace moved.stage
  { rest with events := moved.events ++ rest.events }

/-- A run that has not ended takes one step and goes on from there. -/
theorem runFrom_unfinished (unfinished : stage.verdict? = none) :
    runFrom job workspace stage = (step job workspace stage).goOn job := by
  rw [runFrom]
  split
  · rename_i found
    rw [unfinished] at found
    cases found
  · rfl

/-- A run that is about to release its context does so and ends. -/
theorem goOn_leaving (job : Job) (workspace : Workspace) (events : List Event) (verdict : Verdict) :
    Moved.goOn job ⟨workspace, events, .leaving verdict⟩ =
      { workspace := { workspace with context := workspace.context.release }
        events := events ++ farewell verdict
        verdict } := by
  have unfinished : (Stage.leaving verdict).verdict? = none := rfl
  simp only [Moved.goOn, runFrom_unfinished unfinished, step, leave, runFrom_ended, List.append_nil]

/-- What every step keeps holds at the end of a run when it holds at the start. -/
theorem runFrom_induction {property : Workspace → Stage → Prop}
    (kept : ∀ workspace stage, property workspace stage →
      property (step job workspace stage).workspace (step job workspace stage).stage)
    (initial : property workspace stage) :
    property (runFrom job workspace stage).workspace (.ended (runFrom job workspace stage).verdict) := by
  induction workspace, stage using runFrom.induct job with
  | case1 workspace stage verdict ended =>
    obtain rfl := Stage.eq_ended_of_verdict? ended
    rw [runFrom_ended]
    exact initial
  | case2 workspace stage unfinished moved inductionHypothesis =>
    rw [runFrom_unfinished unfinished]
    exact inductionHypothesis (kept workspace stage initial)

/-! ## The claim of the context -/

/-- Where a context is claimed exactly at the stages that hold it, it is so after one more step. -/
theorem claimed_step (job : Job) (workspace : Workspace) (stage : Stage)
    (matching : workspace.context.claimed = stage.holds) :
    (step job workspace stage).workspace.context.claimed = (step job workspace stage).stage.holds := by
  cases stage with
  | starting =>
    have free : workspace.context.claimed = false := matching
    simp [step, start, Context.claim, free, Stage.holds]
  | loading =>
    simp only [step, load, failReported]
    split <;> exact matching
  | building trace =>
    simp only [step, build, failReported]
    split
    · exact matching
    · split <;> exact matching
  | placing network =>
    simp only [step, place]
    split
    · exact matching
    · split <;> exact matching
  | saving network =>
    simp only [step, save]
    split <;> exact matching
  | dumping network path =>
    simp only [step, dump]
    split <;> exact matching
  | leaving verdict => rfl
  | ended verdict => exact matching

/-- A run on a free context leaves it free. -/
theorem claimed_run (job : Job) (free : workspace.context.claimed = false) :
    (run job workspace).workspace.context.claimed = false :=
  runFrom_induction (claimed_step job) free

end Transformation

end TraceAutomata
