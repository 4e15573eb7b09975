import TraceAutomata.Proofs.Transformation.Course
import Mathlib.Logic.Function.Basic

/-!
# Runs that take turns

Several runs share the files and one context, and at each turn one of them takes a step. A run is a block
of work on the context or a transformation, called or in the background. Both follow a `Plan`: they claim
the context, work while they hold it, and release it. In its work a run may be interrupted by an exception
that it does not handle; it then releases the context and passes the exception on.

A plan carries what every step of it keeps, so what is said here of plans holds of blocks and of
transformations alike.
-/

namespace TraceAutomata

/-- Whether a transformation works at a stage: it holds the context and is not about to release it. -/
def Stage.works : Stage → Bool
  | .starting | .leaving _ | .ended _ => false
  | .loading | .building _ | .placing _ | .saving _ | .dumping _ _ => true

/-- A transformation at work has more to do than to release the context. -/
theorem Stage.one_lt_remaining {stage : Stage} (works : stage.works = true) : 1 < stage.remaining := by
  cases stage <;> simp_all [Stage.works, Stage.remaining]

namespace Turns

/-! ## Exceptions and results -/

/-- An exception: its kind and its wording. -/
structure Raised where
  kind : String
  message : String
  deriving DecidableEq, Repr

variable [Runtime]

namespace Raised

/-- The exception of a fault that a transformation passes on. -/
def ofFault (fault : RunFault) : Raised :=
  ⟨fault.kind, fault.message⟩

/-- The exception of a claim that was refused. -/
def inUse : Raised := ofFault (.inUse {})

/-- What a failure says of an exception: its wording, with its kind in front unless a claim was refused. -/
def text (exception : Raised) : String :=
  if exception.kind = inUse.kind then exception.message else exception.kind ++ ": " ++ exception.message

end Raised

/-- The result that whoever asked for a transformation in the background is given. -/
def report : Except Raised RunResult → RunResult
  | .ok result => result
  | .error exception => { success := false, error := some exception.text }

/-- A refused transformation is reported with the wording of the refusal alone. -/
example : report (.error .inUse) =
    { success := false, error := some "Build context is already in use by another run" } := rfl

/-- A verdict as the caller of a transformation sees it. -/
def outcomeOf (verdict : Verdict) : Except Raised RunResult :=
  verdict.result.mapError Raised.ofFault

/-- The report is the result of a transformation in the background. -/
theorem report_outcomeOf (trace : String) (verdict : Verdict) :
    report (outcomeOf verdict) = (verdict.inBackground trace).2 := by
  cases verdict with
  | written path => rfl
  | failed reason => rfl
  | escaped fault =>
    cases fault with
    | inUse refusal => rfl
    | value fault =>
      have other : fault.kind ≠ Raised.inUse.kind := by
        cases fault <;> simp [ValueFault.kind, Raised.inUse, Raised.ofFault, RunFault.kind]
      show report (.error (.ofFault (.value fault))) = _
      simp [report, Raised.text, Raised.ofFault, RunFault.kind, RunFault.message, other,
        Verdict.inBackground]
    | render error => rfl

/-! ## Plans -/

/-- How a run goes from point to point while nothing interrupts it. It ends only where it does not hold the
context, and a claim that is refused ends it and changes nothing. -/
structure Plan (Point Result : Type) where
  step : Workspace → Point → Workspace × Point
  holds : Point → Bool
  works : Point → Bool
  outcome? : Point → Option (Except Raised Result)
  holds_of_works : ∀ point, works point = true → holds point = true
  claimed_step : ∀ workspace point, workspace.context.claimed = holds point →
    (step workspace point).1.context.claimed = holds (step workspace point).2
  holds_of_outcome : ∀ point outcome, outcome? point = some outcome → holds point = false
  step_of_outcome : ∀ workspace point outcome, outcome? point = some outcome →
    step workspace point = (workspace, point)
  step_of_refused : ∀ workspace point, outcome? point = none → holds point = false →
    workspace.context.claimed = true →
    (step workspace point).1 = workspace ∧ outcome? (step workspace point).2 = some (.error .inUse)

/-- A transformation follows its stages. -/
def transformation (job : Job) : Plan Stage RunResult where
  step workspace stage :=
    let moved := Transformation.step job workspace stage
    (moved.workspace, moved.stage)
  holds := Stage.holds
  works := Stage.works
  outcome? stage := stage.verdict?.map outcomeOf
  holds_of_works stage works := by cases stage <;> first | rfl | cases works
  claimed_step := Transformation.claimed_step job
  holds_of_outcome stage outcome ended := by cases stage <;> first | rfl | cases ended
  step_of_outcome workspace stage outcome ended := by cases stage <;> first | rfl | cases ended
  step_of_refused workspace stage unfinished free claimed := by
    cases stage with
    | starting => simp [Transformation.step, Transformation.start, Context.claim, claimed, Stage.verdict?]; rfl
    | ended verdict => cases unfinished
    | _ => cases free

/-! ## Blocks -/

/-- What a block does next with the files and the builder: it leaves something of them, or it is done. -/
inductive Activity
  | work (files : FileSystem) (builder : Builder)
  | finish

/-- What a block does, by the number of steps it has done and what it finds. -/
abbrev Body := Nat → FileSystem → Builder → Activity

/-- Where a block has got to. -/
inductive BlockStage
  | entering
  | inside (steps : Nat)
  | leaving
  | left
  | refused (refusal : ContextInUse)

/-- One step of a block. -/
def Body.step (body : Body) (workspace : Workspace) : BlockStage → Workspace × BlockStage
  | .entering =>
    match workspace.context.claim with
    | .error refusal => (workspace, .refused refusal)
    | .ok context => ({ workspace with context }, .inside 0)
  | .inside steps =>
    match body steps workspace.files workspace.context.builder with
    | .work files builder =>
      ({ files, context := { workspace.context with builder } }, .inside (steps + 1))
    | .finish => (workspace, .leaving)
  | .leaving => ({ workspace with context := workspace.context.release }, .left)
  | .left => (workspace, .left)
  | .refused refusal => (workspace, .refused refusal)

/-- A block claims the context, works and releases it. -/
def block (body : Body) : Plan BlockStage Unit where
  step := body.step
  holds
    | .inside _ | .leaving => true
    | .entering | .left | .refused _ => false
  works
    | .inside _ => true
    | .entering | .leaving | .left | .refused _ => false
  outcome?
    | .left => some (.ok ())
    | .refused refusal => some (.error (.ofFault (.inUse refusal)))
    | .entering | .inside _ | .leaving => none
  holds_of_works stage works := by cases stage <;> first | rfl | cases works
  claimed_step workspace stage matching := by
    cases stage with
    | entering =>
      have free : workspace.context.claimed = false := matching
      simp [Body.step, Context.claim, free]
    | inside steps =>
      unfold Body.step
      dsimp only
      split <;> exact matching
    | leaving => rfl
    | left => exact matching
    | refused refusal => exact matching
  holds_of_outcome stage outcome ended := by cases stage <;> first | rfl | cases ended
  step_of_outcome workspace stage outcome ended := by cases stage <;> first | rfl | cases ended
  step_of_refused workspace stage unfinished free claimed := by
    cases stage with
    | entering => simp [Body.step, Context.claim, claimed]; rfl
    | inside steps => cases free
    | leaving => cases free
    | left => cases unfinished
    | refused refusal => cases unfinished

/-! ## Exceptions on the way -/

/-- An exception that strikes a run at its work and that the run does not handle, and what the work has left
of the files and the builder. -/
structure Interruption where
  exception : Raised
  files : FileSystem
  builder : Builder

/-- How far a run has come: it follows its plan, or an exception has struck and the context is still to be
released, or is released. -/
inductive Course (Point : Type)
  | going (point : Point)
  | unwinding (exception : Raised)
  | thrown (exception : Raised)

namespace Course

variable {Point Result : Type} (plan : Plan Point Result)

/-- Whether a run holds the context. -/
def holds : Course Point → Bool
  | going point => plan.holds point
  | unwinding _ => true
  | thrown _ => false

/-- What a run has come to, if it has ended. -/
def outcome? : Course Point → Option (Except Raised Result)
  | going point => plan.outcome? point
  | unwinding _ => none
  | thrown exception => some (.error exception)

/-- One step of a run. An interruption counts only while the run works. -/
def advance (interruption : Option Interruption) (workspace : Workspace) :
    Course Point → Workspace × Course Point
  | going point =>
    match interruption.filter fun _ => plan.works point with
    | some struck =>
      ({ files := struck.files, context := { workspace.context with builder := struck.builder } },
        unwinding struck.exception)
    | none =>
      let (after, next) := plan.step workspace point
      (after, going next)
  | unwinding exception =>
    ({ workspace with context := workspace.context.release }, thrown exception)
  | thrown exception => (workspace, thrown exception)

end Course

/-! ## Runs -/

/-- The thread of a transformation in the background: whether a callback waits for the result, what it was
given so far, and whether the thread is done. -/
structure Worker where
  callback : Bool
  received : List RunResult := []
  done : Bool := false

/-- Report a result once. -/
def Worker.conclude (worker : Worker) (result : RunResult) : Worker :=
  if worker.done then worker
  else
    { worker with
      received := if worker.callback then worker.received ++ [result] else worker.received
      done := true }

/-- A run: a block, or a transformation, which in the background has a worker. -/
inductive Run
  | ofBlock (body : Body) (course : Course BlockStage)
  | ofJob (job : Job) (course : Course Stage) (worker : Option Worker)

namespace Run

/-- Whether a run holds the context. -/
def holds : Run → Bool
  | ofBlock body course => course.holds (block body)
  | ofJob job course _ => course.holds (transformation job)

/-- What a run has come to, if it has ended: an exception, or a result if it is a transformation. -/
def outcome? : Run → Option (Except Raised (Option RunResult))
  | ofBlock body course => (course.outcome? (block body)).map (·.map fun _ => none)
  | ofJob job course _ => (course.outcome? (transformation job)).map (·.map some)

/-- What the callback of a run was given, if it has one. -/
def received : Run → List RunResult
  | ofJob _ _ (some worker) => worker.received
  | _ => []

/-- One step of a run. A worker whose transformation has ended reports the result. -/
def advance (interruption : Option Interruption) (workspace : Workspace) : Run → Workspace × Run
  | ofBlock body course =>
    let (after, next) := course.advance (block body) interruption workspace
    (after, ofBlock body next)
  | ofJob job course worker =>
    match course.outcome? (transformation job) with
    | some outcome => (workspace, ofJob job course (worker.map (·.conclude (report outcome))))
    | none =>
      let (after, next) := course.advance (transformation job) interruption workspace
      (after, ofJob job next worker)

end Run

/-! ## Systems -/

/-- What a run is asked to do. -/
inductive Task
  | block (body : Body)
  | call (job : Job)
  | background (job : Job) (callback : Bool)

/-- A run that has not begun. -/
def Task.begin : Task → Run
  | .block body => .ofBlock body (.going .entering)
  | .call job => .ofJob job (.going .starting) none
  | .background job callback => .ofJob job (.going .starting) (some { callback })

/-- Runs, each under a name, that share the files and one context. -/
structure System (Name : Type) where
  workspace : Workspace
  run : Name → Run

/-- Whose turn it is, and what interrupts it if it is at work. -/
structure Turn (Name : Type) where
  name : Name
  interruption : Option Interruption := none

namespace System

variable {Name : Type} [DecidableEq Name]

/-- All runs before their first turn, on a free context. -/
def start (files : FileSystem) (builder : Builder) (tasks : Name → Task) : System Name where
  workspace := { files, context := { builder } }
  run name := (tasks name).begin

/-- Let a run take a step. -/
def take (system : System Name) (turn : Turn Name) : System Name :=
  let (workspace, run) := (system.run turn.name).advance turn.interruption system.workspace
  { workspace, run := Function.update system.run turn.name run }

/-- Let runs take steps one after another. -/
def takeAll (system : System Name) (turns : List (Turn Name)) : System Name :=
  turns.foldl take system

end System

/-! ## Runs on their own -/

/-- A run that has all turns to itself. -/
def Run.alone (run : Run) (workspace : Workspace) : Nat → Workspace × Run
  | 0 => (workspace, run)
  | turns + 1 =>
    let (after, next) := run.advance none workspace
    next.alone after turns

/-- A transformation with enough turns to itself goes all its stages. -/
theorem alone_transformation (job : Job) (turns : Nat) (workspace : Workspace) (stage : Stage)
    (enough : stage.remaining ≤ turns) :
    (Run.ofJob job (.going stage) none).alone workspace turns =
      ((Transformation.runFrom job workspace stage).workspace,
        .ofJob job (.going (.ended (Transformation.runFrom job workspace stage).verdict)) none) := by
  induction turns generalizing workspace stage with
  | zero =>
    cases found : stage.verdict? with
    | none =>
      have more := Stage.remaining_pos found
      omega
    | some verdict =>
      obtain rfl := Stage.eq_ended_of_verdict? found
      rw [Transformation.runFrom_ended]
      rfl
  | succ turns inductionHypothesis =>
    cases found : stage.verdict? with
    | none =>
      have fewer := Transformation.remaining_step_lt job workspace (Stage.remaining_pos found)
      have gone : (Run.ofJob job (.going stage) none).advance none workspace =
          ((Transformation.step job workspace stage).workspace,
            .ofJob job (.going (Transformation.step job workspace stage).stage) none) := by
        simp only [Run.advance, Course.outcome?, transformation, found, Option.map_none]
        rfl
      rw [Run.alone, gone, Transformation.runFrom_unfinished found]
      exact inductionHypothesis _ _ (by omega)
    | some verdict =>
      obtain rfl := Stage.eq_ended_of_verdict? found
      exact inductionHypothesis workspace (.ended verdict) (Nat.zero_le turns)

/-- A block that works on the builder once. -/
def Body.once {α : Type} (work : Builder → Builder × α) : Body
  | 0, files, builder => .work files (work builder).1
  | _ + 1, _, _ => .finish

/-- A block with four turns to itself is work on a context while it is claimed. -/
theorem alone_block {α : Type} (work : Builder → Builder × α) (files : FileSystem) (context : Context) :
    ((Run.ofBlock (Body.once work) (.going .entering)).alone { files, context } 4).1 =
      { files, context := (context.running work).1 } := by
  rcases context with ⟨builder, claimed⟩
  cases claimed with
  | false => rfl
  | true => rfl

end Turns

end TraceAutomata
