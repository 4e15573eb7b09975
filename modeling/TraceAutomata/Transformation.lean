import TraceAutomata.Context
import TraceAutomata.Output
import TraceAutomata.Trace.Reader
import TraceAutomata.Traversal

/-!
# Transformations

A transformation turns a trace file into a document file, on a context that it claims for itself. It
moves through stages, each a step on the files and the context, and ends with a verdict: a written
document, a failure that it reports, or a fault that it passes on. It leaves through the stage that
releases the context in every case except when the claim was refused.

A transformation in the background passes no fault on: `Verdict.inBackground` makes a failure of it.
-/

namespace TraceAutomata

/-- The files and the context that a transformation works on. -/
structure Workspace where
  files : FileSystem
  context : Context := {}

/-- What to transform, where to, and how. -/
structure Job where
  trace : String
  output : Option String := none
  config : Config := {}
  deriving DecidableEq, Repr

/-- The path of the document: the given one unless it is empty, else the one that belongs to the trace. -/
def Job.outputPath (job : Job) : String :=
  match job.output with
  | some given => if given.isEmpty then job.config.defaultOutput job.trace else given
  | none => job.config.defaultOutput job.trace

/-- The faults that a transformation passes on. -/
inductive RunFault
  | inUse (refusal : ContextInUse)
  | value (fault : ValueFault)
  | render (message : String)
  deriving DecidableEq, Repr

/-- The kind of a fault. -/
def RunFault.kind : RunFault → String
  | .inUse _ => "RunInProgressError"
  | .value fault => fault.kind
  | .render _ => "ModelError"

/-- The wording of a fault. -/
def RunFault.message [Runtime] : RunFault → String
  | .inUse refusal => refusal.message
  | .value fault => fault.message
  | .render message => message

/-- How a transformation ends. -/
inductive Verdict
  | written (path : String)
  | failed (reason : String)
  | escaped (fault : RunFault)
  deriving DecidableEq, Repr

/-- Where a transformation has got to. -/
inductive Stage
  /-- Nothing is done yet. -/
  | starting
  /-- The context is claimed, and the trace comes next. -/
  | loading
  /-- The network is to be built. -/
  | building (trace : Trace)
  /-- The directory of the document is to be made. -/
  | placing (network : Network)
  /-- The document is to be saved. -/
  | saving (network : Network)
  /-- The document is saved, and the model dump comes next. -/
  | dumping (network : Network) (path : String)
  /-- The context is to be released. -/
  | leaving (verdict : Verdict)
  /-- Nothing is left to do. -/
  | ended (verdict : Verdict)

/-- The most steps that are left from a stage on. -/
def Stage.remaining : Stage → Nat
  | .starting => 7
  | .loading => 6
  | .building _ => 5
  | .placing _ => 4
  | .saving _ => 3
  | .dumping _ _ => 2
  | .leaving _ => 1
  | .ended _ => 0

/-- Whether the context is held at a stage: between the claim and the release. -/
def Stage.holds : Stage → Bool
  | .starting => false
  | .ended _ => false
  | _ => true

/-- How a transformation ended, if it has. -/
def Stage.verdict? : Stage → Option Verdict
  | .ended verdict => some verdict
  | _ => none

/-- A transformation that has not ended has steps left. -/
theorem Stage.remaining_pos {stage : Stage} (unfinished : stage.verdict? = none) :
    0 < stage.remaining := by
  cases stage <;> simp_all [Stage.verdict?, Stage.remaining]

namespace Transformation

variable [Runtime]

/-- One step taken: the workspace and the stage after it, and the events it reported. -/
structure Moved where
  workspace : Workspace
  events : List Event := []
  stage : Stage

/-- Claim the context. -/
def start (job : Job) (workspace : Workspace) : Moved :=
  match workspace.context.claim with
  | .error refusal => { workspace, stage := .ended (.escaped (.inUse refusal)) }
  | .ok context =>
    { workspace := { workspace with context }, events := [.transforming job.trace], stage := .loading }

/-- Fail with a reason that is reported. -/
def failReported (job : Job) (workspace : Workspace) (events : List Event) (reason : String) : Moved :=
  { workspace, events := events ++ [.transformationFailed job.trace reason],
    stage := .leaving (.failed reason) }

/-- Read the trace. -/
def load (job : Job) (workspace : Workspace) : Moved :=
  let read := Trace.ofFile workspace.files job.trace none
  match read.outcome with
  | .ok trace => { workspace, events := read.events, stage := .building trace }
  | .error (.refused error) => failReported job workspace read.events error.message
  | .error (.value fault) =>
    { workspace, events := read.events, stage := .leaving (.escaped (.value fault)) }

/-- Build the network of a trace on the context. -/
def build (job : Job) (trace : Trace) (workspace : Workspace) : Moved :=
  let built := Traversal.build job.config trace.name trace.statements workspace.context.builder
  let left : Workspace :=
    { workspace with context := { workspace.context with builder := built.builder } }
  match built.answer with
  | .ok network => { workspace := left, events := built.events, stage := .placing network }
  | .error error =>
    match error.message with
    | .ok message => failReported job left built.events message
    | .error fault =>
      { workspace := left, events := built.events, stage := .leaving (.escaped (.value fault)) }

/-- Make the directory that the document goes to, unless its path names none. -/
def place (job : Job) (network : Network) (workspace : Workspace) : Moved :=
  let directory := Path.directory job.outputPath.toList
  if directory.isEmpty then { workspace, stage := .saving network }
  else
    let (files, outcome) := workspace.files.ensureDirectory directory
    let moved : Workspace := { workspace with files }
    match outcome with
    | .ok () => { workspace := moved, stage := .saving network }
    | .error (.value fault) => { workspace := moved, stage := .leaving (.escaped (.value fault)) }
    | .error (.refused fault) =>
      { workspace := moved
        events := [.directoryNotMade (String.ofList directory) fault.message]
        stage := .leaving (.failed fault.message) }

/-- The fault that is passed on when saving fails unreported. -/
def ofSaveFault : SaveFault → RunFault
  | .value fault => .value fault
  | .render error =>
    match error.message with
    | .ok message => .render message
    | .error fault => .value fault

/-- Save the document. -/
def save (job : Job) (network : Network) (workspace : Workspace) : Moved :=
  let saved := saveDocument network job.outputPath workspace.files
  let stage : Stage :=
    match saved.outcome with
    | .ok (some path) => .dumping network path
    | .ok none => .leaving (.failed ("Could not write " ++ job.outputPath))
    | .error fault => .leaving (.escaped (ofSaveFault fault))
  { workspace := { workspace with files := saved.files }, events := saved.events, stage }

/-- Save the model dump if the settings ask for it. A dump that cannot be written is no failure. -/
def dump (job : Job) (network : Network) (path : String) (workspace : Workspace) : Moved :=
  if job.config.writeDump then
    let saved := saveDump network.dump path workspace.files
    let verdict : Verdict :=
      match saved.outcome with
      | .ok _ => .written path
      | .error fault => .escaped (ofSaveFault fault)
    { workspace := { workspace with files := saved.files }, events := saved.events,
      stage := .leaving verdict }
  else { workspace, stage := .leaving (.written path) }

/-- The report after the release. -/
def farewell : Verdict → List Event
  | .written path => [.transformationFinished path]
  | _ => []

/-- Release the context. -/
def leave (verdict : Verdict) (workspace : Workspace) : Moved :=
  { workspace := { workspace with context := workspace.context.release }
    events := farewell verdict
    stage := .ended verdict }

/-- One step of a transformation. -/
def step (job : Job) (workspace : Workspace) : Stage → Moved
  | .starting => start job workspace
  | .loading => load job workspace
  | .building trace => build job trace workspace
  | .placing network => place job network workspace
  | .saving network => save job network workspace
  | .dumping network path => dump job network path workspace
  | .leaving verdict => leave verdict workspace
  | .ended verdict => { workspace, stage := .ended verdict }

/-- Every step brings the end nearer. -/
theorem remaining_step_lt (job : Job) (workspace : Workspace) {stage : Stage}
    (unfinished : 0 < stage.remaining) :
    (step job workspace stage).stage.remaining < stage.remaining := by
  cases stage with
  | starting =>
    simp only [step, start]
    split <;> simp [Stage.remaining]
  | loading =>
    simp only [step, load, failReported]
    split <;> simp [Stage.remaining]
  | building trace =>
    simp only [step, build, failReported]
    split
    · simp [Stage.remaining]
    · split <;> simp [Stage.remaining]
  | placing network =>
    simp only [step, place]
    split
    · simp [Stage.remaining]
    · split <;> simp [Stage.remaining]
  | saving network =>
    simp only [step, save]
    split <;> simp [Stage.remaining]
  | dumping network path =>
    simp only [step, dump]
    split <;> simp [Stage.remaining]
  | leaving verdict => simp [step, leave, Stage.remaining]
  | ended verdict => simp [Stage.remaining] at unfinished

/-- A transformation that has ended. -/
structure Ended where
  workspace : Workspace
  events : List Event
  verdict : Verdict

/-- Go on from a stage to the end. -/
def runFrom (job : Job) (workspace : Workspace) (stage : Stage) : Ended :=
  match _found : stage.verdict? with
  | some verdict => { workspace, events := [], verdict }
  | none =>
    let moved := step job workspace stage
    let rest := runFrom job moved.workspace moved.stage
    { rest with events := moved.events ++ rest.events }
termination_by stage.remaining
decreasing_by exact remaining_step_lt job workspace (Stage.remaining_pos _found)

/-- Carry out a transformation. -/
def run (job : Job) (workspace : Workspace) : Ended :=
  runFrom job workspace .starting

end Transformation

/-! ## Results -/

/-- What a transformation reports to whoever asked for it. -/
structure RunResult where
  success : Bool
  outputPath : Option String := none
  error : Option String := none
  deriving DecidableEq, Repr

namespace Verdict

/-- The result that a verdict gives, unless a fault is passed on. -/
def result : Verdict → Except RunFault RunResult
  | .written path => .ok { success := true, outputPath := some path }
  | .failed reason => .ok { success := false, error := some reason }
  | .escaped fault => .error fault

/-- The result of a transformation in the background, with the events of turning a fault into a
failure. -/
def inBackground [Runtime] (trace : String) : Verdict → List Event × RunResult
  | .written path => ([], { success := true, outputPath := some path })
  | .failed reason => ([], { success := false, error := some reason })
  | .escaped (.inUse refusal) =>
    ([.transformationRejected refusal.message],
      { success := false, error := some refusal.message })
  | .escaped fault =>
    ([.transformationCrashed trace],
      { success := false, error := some (fault.kind ++ ": " ++ fault.message) })

end Verdict

namespace Transformation

/-- The name of the thread that a transformation in the background runs on. -/
def threadName : String := "trace2nta-transform"

/-- Carry out a transformation in the background: the workspace afterwards, all events, and the result
that its asker is given. -/
def runInBackground [Runtime] (job : Job) (workspace : Workspace) : Workspace × List Event × RunResult :=
  let ended := run job workspace
  let (events, result) := ended.verdict.inBackground job.trace
  (ended.workspace, ended.events ++ events, result)

end Transformation

end TraceAutomata
