import TraceAutomata.Proofs.Transformation.Course

/-!
# Contexts that are used again

A transformation that reads its trace starts a network of its own, so nothing that a context held before
shows in what comes of it; one that does not read its trace leaves the context alone. `run_of_loaded` and
`run_of_unloaded` are the two cases. `reuse_unseen` says that a transformation on a context that was used
before comes to the same as one on a fresh context, and so does any number of them one after another.
-/

namespace TraceAutomata

/-- A traversal begins with a network of its own, so it does not depend on the builder it is given. -/
theorem Traversal.build_eq_fresh (config : Config) (name : String) (statements : List Statement)
    (builder : Builder) :
    build config name statements builder = build config name statements {} := rfl

/-- A workspace with a free context is its files and its builder. -/
theorem Workspace.eq_of_free {workspace : Workspace} (free : workspace.context.claimed = false) :
    workspace =
      { files := workspace.files, context := { builder := workspace.context.builder } } := by
  rcases workspace with ⟨files, ⟨builder, claimed⟩⟩
  obtain rfl : claimed = false := free
  rfl

namespace Transformation

variable [Runtime] {job : Job} {files : FileSystem}

/-- A run on a free context claims it and then reads the trace. -/
theorem run_of_free (job : Job) (files : FileSystem) (builder : Builder) :
    run job { files, context := { builder } } =
      let claimed : Workspace := { files, context := { builder, claimed := true } }
      Moved.goOn job ⟨claimed, [.transforming job.trace], .loading⟩ :=
  runFrom_unfinished rfl

/-- When the trace is read, the run does not depend on the builder of the context. -/
theorem run_of_loaded (builder : Builder) {trace : Trace}
    (loaded : (Trace.ofFile files job.trace none).outcome = .ok trace) :
    run job { files, context := { builder } } = run job { files } := by
  have rest (held : Builder) :
      runFrom job { files, context := { builder := held, claimed := true } } .loading =
        Moved.goOn job
          { workspace := { files, context := { builder := held, claimed := true } }
            events := (Trace.ofFile files job.trace none).events
            stage := .building trace } := by
    rw [runFrom_unfinished rfl, step, load, loaded]
  have built : step job { files, context := { builder, claimed := true } } (.building trace) =
      step job { files, context := { claimed := true } } (.building trace) := by
    simp only [step, build, Traversal.build_eq_fresh _ _ _ builder]
  have unfinished : (Stage.building trace).verdict? = none := rfl
  simp only [run_of_free, Moved.goOn, rest, runFrom_unfinished unfinished, built]

/-- When the trace is not read, the context is released next, whatever it holds. -/
theorem load_of_unread {fault : TraceFault}
    (unread : (Trace.ofFile files job.trace none).outcome = .error fault) :
    ∃ events verdict, ∀ context,
      load job { files, context } = ⟨{ files, context }, events, .leaving verdict⟩ := by
  let reported := (Trace.ofFile files job.trace none).events
  cases fault with
  | refused error =>
    refine ⟨reported ++ [.transformationFailed job.trace error.message], .failed error.message,
      fun context => ?_⟩
    rw [load, unread]
    rfl
  | value fault =>
    refine ⟨reported, .escaped (.value fault), fun context => ?_⟩
    rw [load, unread]

/-- When the trace is not read, the run leaves the files and the builder as they were. -/
theorem run_of_unloaded (builder : Builder) {fault : TraceFault}
    (unread : (Trace.ofFile files job.trace none).outcome = .error fault) :
    run job { files, context := { builder } } =
      { run job { files } with workspace := { files, context := { builder } } } := by
  obtain ⟨events, verdict, leaves⟩ := load_of_unread unread
  have rest (held : Builder) :
      runFrom job { files, context := { builder := held, claimed := true } } .loading =
        { workspace := { files, context := { builder := held } }
          events := events ++ farewell verdict
          verdict } := by
    rw [runFrom_unfinished rfl, step, leaves, goOn_leaving]
    rfl
  simp only [run_of_free, Moved.goOn, rest]

/-! ## One run after another -/

/-- Runs one after another on one context: what each of them came to and reported, and what they left. -/
def runEach (workspace : Workspace) : List Job → List (Verdict × List Event) × Workspace
  | [] => ([], workspace)
  | job :: rest =>
    let ended := run job workspace
    let others := runEach ended.workspace rest
    ((ended.verdict, ended.events) :: others.1, others.2)

/-- Runs one after another, each on a fresh context. -/
def runApart (files : FileSystem) : List Job → List (Verdict × List Event) × FileSystem
  | [] => ([], files)
  | job :: rest =>
    let ended := run job { files }
    let others := runApart ended.workspace.files rest
    ((ended.verdict, ended.events) :: others.1, others.2)

/-- What a run on a context that was used before has in common with one on a fresh context. Only a run
that does not read its trace leaves another builder: the one it found. -/
structure RunsAsFresh (job : Job) (files : FileSystem) (builder : Builder) : Prop where
  sameVerdict : (run job { files, context := { builder } }).verdict = (run job { files }).verdict
  sameEvents : (run job { files, context := { builder } }).events = (run job { files }).events
  sameFiles :
    (run job { files, context := { builder } }).workspace.files = (run job { files }).workspace.files
  released : (run job { files, context := { builder } }).workspace.context.claimed = false
  contextOfLoaded : ∀ trace, (Trace.ofFile files job.trace none).outcome = .ok trace →
    (run job { files, context := { builder } }).workspace.context = (run job { files }).workspace.context
  builderOfUnloaded : ∀ fault, (Trace.ofFile files job.trace none).outcome = .error fault →
    (run job { files, context := { builder } }).workspace.context.builder = builder

/-- Every run on a free context comes to the same as on a fresh one. -/
theorem runsAsFresh (job : Job) (files : FileSystem) (builder : Builder) :
    RunsAsFresh job files builder := by
  have released : (run job { files, context := { builder } }).workspace.context.claimed = false :=
    claimed_run job rfl
  cases read : (Trace.ofFile files job.trace none).outcome with
  | ok trace =>
    have same := run_of_loaded builder read
    refine ⟨?_, ?_, ?_, released, fun _ _ => ?_, fun fault unread => ?_⟩
    · rw [same]
    · rw [same]
    · rw [same]
    · rw [same]
    · rw [read] at unread
      cases unread
  | error fault =>
    have same := run_of_unloaded builder read
    have fresh := run_of_unloaded {} read
    refine ⟨?_, ?_, ?_, released, fun trace loaded => ?_, fun _ _ => ?_⟩
    · rw [same]
    · rw [same]
    · rw [same, fresh]
    · rw [read] at loaded
      cases loaded
    · rw [same]

/-- Runs one after another on one context come to the same as on contexts of their own. -/
theorem runEach_eq_runApart (jobs : List Job) (files : FileSystem) (builder : Builder) :
    let together := runEach { files, context := { builder } } jobs
    (together.1, together.2.files) = runApart files jobs := by
  induction jobs generalizing files builder with
  | nil => rfl
  | cons job rest inductionHypothesis =>
    have first := runsAsFresh job files builder
    have onward := Workspace.eq_of_free first.released
    rw [first.sameFiles] at onward
    have others := inductionHypothesis (run job { files }).workspace.files
      (run job { files, context := { builder } }).workspace.context.builder
    simp only [← onward] at others
    simp only [runEach, runApart, first.sameVerdict, first.sameEvents, ← others]

/-- Runs do not show what their context was used for before. Whatever builder a free context holds, a run
on it comes to the same as on a fresh context, and so do any number of runs one after another; so does the
traversal of statements alone. -/
theorem reuse_unseen (files : FileSystem) (builder : Builder) :
    (∀ job, RunsAsFresh job files builder) ∧
      (∀ jobs, let together := runEach { files, context := { builder } } jobs
        (together.1, together.2.files) = runApart files jobs) ∧
      ∀ config name statements,
        Traversal.build config name statements builder = Traversal.build config name statements {} :=
  ⟨fun job => runsAsFresh job files builder, fun jobs => runEach_eq_runApart jobs files builder,
    fun config name statements => Traversal.build_eq_fresh config name statements builder⟩

end Transformation

end TraceAutomata
