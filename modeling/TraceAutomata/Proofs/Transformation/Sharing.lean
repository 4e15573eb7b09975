import TraceAutomata.Proofs.Transformation.Turns

/-!
# Sharing a context

Runs that share a context exclude each other, whatever turns they take. A context is claimed exactly while
one of them holds it (`Exclusive`), and every turn keeps that (`exclusive_take`): a run that holds the
context is the only one that changes it, and a run that does not can only claim a free one. A run that
finds the context claimed ends with the refusal, and a run that has ended changes nothing any more, so
nobody else's claim is ever released.

`Serves` says how far the worker of a transformation in the background has come, and `left` how many turns
it still needs, so its callback is given one result.
-/

namespace TraceAutomata.Turns

variable [Runtime]

/-! ## Steps of a course -/

namespace Course

variable {Point Result : Type} (plan : Plan Point Result) {workspace : Workspace} {course : Course Point}
  {outcome : Except Raised Result}

theorem holds_of_outcome (ended : course.outcome? plan = some outcome) : course.holds plan = false := by
  cases course with
  | going point => exact plan.holds_of_outcome point outcome ended
  | unwinding exception => cases ended
  | thrown exception => rfl

/-- An interruption does not count for a run that does not hold the context. -/
theorem advance_going_of_free {point : Point} (interruption : Option Interruption)
    (free : plan.holds point = false) :
    (going point).advance plan interruption workspace =
      ((plan.step workspace point).1, going (plan.step workspace point).2) := by
  have idle : plan.works point = false := by
    cases works : plan.works point with
    | false => rfl
    | true => rw [plan.holds_of_works point works] at free; cases free
  have none : (interruption.filter fun _ => plan.works point) = none := by
    simp [idle]
  rw [advance, none]

/-- Where the context is claimed exactly if the run holds it, it is so after one more step. -/
theorem claimed_advance (interruption : Option Interruption)
    (matching : workspace.context.claimed = course.holds plan) :
    (course.advance plan interruption workspace).1.context.claimed =
      (course.advance plan interruption workspace).2.holds plan := by
  cases course with
  | going point =>
    rw [advance]
    split
    · rename_i struck counts
      obtain ⟨-, works⟩ := Option.filter_eq_some_iff.mp counts
      have held : workspace.context.claimed = true := matching.trans (plan.holds_of_works point works)
      exact held
    · exact plan.claimed_step workspace point matching
  | unwinding exception => rfl
  | thrown exception => exact matching

theorem advance_of_outcome (interruption : Option Interruption)
    (ended : course.outcome? plan = some outcome) :
    course.advance plan interruption workspace = (workspace, course) := by
  cases course with
  | going point =>
    have free := plan.holds_of_outcome point outcome ended
    rw [advance_going_of_free plan interruption free, plan.step_of_outcome workspace point outcome ended]
  | unwinding exception => cases ended
  | thrown exception => rfl

theorem advance_of_refused (interruption : Option Interruption) (unfinished : course.outcome? plan = none)
    (free : course.holds plan = false) (claimed : workspace.context.claimed = true) :
    (course.advance plan interruption workspace).1 = workspace ∧
      (course.advance plan interruption workspace).2.outcome? plan = some (.error .inUse) := by
  cases course with
  | going point =>
    rw [advance_going_of_free plan interruption free]
    exact plan.step_of_refused workspace point unfinished free claimed
  | unwinding exception => cases free
  | thrown exception => cases unfinished

end Course

/-! ## Steps of a run -/

namespace Run

variable {workspace : Workspace} {run : Run} {outcome : Except Raised (Option RunResult)}

theorem holds_of_outcome (ended : run.outcome? = some outcome) : run.holds = false := by
  cases run with
  | ofBlock body course =>
    obtain ⟨ending, came, -⟩ := Option.map_eq_some_iff.mp ended
    exact Course.holds_of_outcome _ came
  | ofJob job course worker =>
    obtain ⟨ending, came, -⟩ := Option.map_eq_some_iff.mp ended
    exact Course.holds_of_outcome _ came

theorem claimed_advance (interruption : Option Interruption)
    (matching : workspace.context.claimed = run.holds) :
    (run.advance interruption workspace).1.context.claimed =
      (run.advance interruption workspace).2.holds := by
  cases run with
  | ofBlock body course => exact Course.claimed_advance _ interruption matching
  | ofJob job course worker =>
    rw [advance]
    split
    · exact matching
    · exact Course.claimed_advance _ interruption matching

/-- A run that has ended leaves everything as it is and has ended still. -/
theorem advance_of_outcome (interruption : Option Interruption) (ended : run.outcome? = some outcome) :
    (run.advance interruption workspace).1 = workspace ∧
      (run.advance interruption workspace).2.outcome? = some outcome := by
  cases run with
  | ofBlock body course =>
    obtain ⟨ending, came, -⟩ := Option.map_eq_some_iff.mp ended
    rw [advance, Course.advance_of_outcome _ interruption came]
    exact ⟨rfl, ended⟩
  | ofJob job course worker =>
    obtain ⟨ending, came, -⟩ := Option.map_eq_some_iff.mp ended
    rw [advance, came]
    exact ⟨rfl, ended⟩

/-- A run that finds the context claimed leaves everything as it is and ends with the refusal. -/
theorem advance_of_refused (interruption : Option Interruption) (unfinished : run.outcome? = none)
    (free : run.holds = false) (claimed : workspace.context.claimed = true) :
    (run.advance interruption workspace).1 = workspace ∧
      (run.advance interruption workspace).2.outcome? = some (.error .inUse) := by
  cases run with
  | ofBlock body course =>
    have going := Option.map_eq_none_iff.mp unfinished
    obtain ⟨same, refused⟩ := Course.advance_of_refused _ interruption going free claimed
    refine ⟨same, ?_⟩
    simp only [advance, outcome?, refused]
    rfl
  | ofJob job course worker =>
    have going := Option.map_eq_none_iff.mp unfinished
    obtain ⟨same, refused⟩ := Course.advance_of_refused _ interruption going free claimed
    simp only [advance, going]
    refine ⟨same, ?_⟩
    simp only [outcome?, refused]
    rfl

/-- A run that does not hold a claimed context leaves everything as it is and does not hold it then. -/
theorem advance_of_claimed (interruption : Option Interruption) (free : run.holds = false)
    (claimed : workspace.context.claimed = true) :
    (run.advance interruption workspace).1 = workspace ∧
      (run.advance interruption workspace).2.holds = false := by
  cases came : run.outcome? with
  | none =>
    obtain ⟨same, refused⟩ := advance_of_refused interruption came free claimed
    exact ⟨same, holds_of_outcome refused⟩
  | some outcome =>
    obtain ⟨same, ended⟩ := advance_of_outcome interruption came
    exact ⟨same, holds_of_outcome ended⟩

end Run

/-! ## The worker -/

/-- A run that does what it was asked to: its worker, if it has one, has reported nothing yet, or has
reported once what the transformation came to. -/
inductive Serves : Task → Run → Prop
  | block {body : Body} (course : Course BlockStage) : Serves (.block body) (.ofBlock body course)
  | call {job : Job} (course : Course Stage) : Serves (.call job) (.ofJob job course none)
  | waiting {job : Job} {callback : Bool} (course : Course Stage) :
    Serves (.background job callback) (.ofJob job course (some { callback }))
  | reported {job : Job} {callback : Bool} {course : Course Stage} {outcome : Except Raised RunResult}
    (ended : course.outcome? (transformation job) = some outcome) :
    Serves (.background job callback) (.ofJob job course
      (some { callback, received := if callback then [report outcome] else [], done := true }))

theorem serves_begin (task : Task) : Serves task task.begin := by
  cases task with
  | block body => exact .block _
  | call job => exact .call _
  | background job callback => exact .waiting _

theorem Serves.advance {task : Task} {run : Run} (serves : Serves task run)
    (interruption : Option Interruption) (workspace : Workspace) :
    Serves task (run.advance interruption workspace).2 := by
  cases serves with
  | block course => exact .block _
  | @call job course =>
    rw [Run.advance]
    split
    · exact .call _
    · exact .call _
  | @waiting job callback course =>
    rw [Run.advance]
    split
    · rename_i outcome ended
      cases callback with
      | false => exact .reported ended
      | true => exact .reported ended
    · exact .waiting _
  | reported ended =>
    rw [Run.advance, ended]
    exact .reported ended

/-- The most steps that are left of a transformation. -/
def Course.left : Course Stage → Nat
  | .going stage => stage.remaining
  | .unwinding _ => 1
  | .thrown _ => 0

/-- The most turns that a transformation needs, the report of its worker included. Of blocks nothing is
known, so they count as done. -/
def Run.left : Run → Nat
  | .ofBlock _ _ => 0
  | .ofJob _ course none => course.left
  | .ofJob _ course (some worker) => course.left + if worker.done then 0 else 1

theorem Course.left_of_outcome {job : Job} {course : Course Stage} {outcome : Except Raised RunResult}
    (ended : course.outcome? (transformation job) = some outcome) : course.left = 0 := by
  cases course with
  | going stage =>
    obtain ⟨verdict, found, -⟩ := Option.map_eq_some_iff.mp ended
    obtain rfl := Stage.eq_ended_of_verdict? found
    rfl
  | unwinding exception => cases ended
  | thrown exception => rfl

/-- A transformation that has not ended comes nearer to its end, also when it is interrupted. -/
theorem Course.left_advance {job : Job} {course : Course Stage} (interruption : Option Interruption)
    (workspace : Workspace) (unfinished : course.outcome? (transformation job) = none) :
    (course.advance (transformation job) interruption workspace).2.left < course.left := by
  cases course with
  | going stage =>
    rw [advance]
    split
    · rename_i struck counts
      obtain ⟨-, works⟩ := Option.filter_eq_some_iff.mp counts
      exact Stage.one_lt_remaining works
    · have going := Option.map_eq_none_iff.mp unfinished
      exact Transformation.remaining_step_lt job workspace (Stage.remaining_pos going)
  | unwinding exception => exact Nat.zero_lt_one
  | thrown exception => cases unfinished

theorem Run.left_advance (interruption : Option Interruption) (workspace : Workspace) (run : Run) :
    (run.advance interruption workspace).2.left ≤ run.left - 1 := by
  cases run with
  | ofBlock body course => exact Nat.zero_le _
  | ofJob job course worker =>
    rw [advance]
    split
    · rename_i outcome ended
      have none := Course.left_of_outcome ended
      cases worker with
      | none => simp [left, none]
      | some worker => cases done : worker.done <;> simp [left, none, Worker.conclude, done]
    · rename_i unfinished
      have fewer := Course.left_advance interruption workspace unfinished
      cases worker with
      | none =>
        simp only [left]
        omega
      | some worker =>
        simp only [left]
        omega

/-! ## Systems -/

namespace System

variable {Name : Type} {system : System Name} {tasks : Name → Task}

/-- The context is claimed exactly while a run holds it, and at most one does. -/
structure Exclusive (system : System Name) : Prop where
  claimed_iff : system.workspace.context.claimed = true ↔ ∃ name, (system.run name).holds = true
  alone : ∀ first second, (system.run first).holds = true → (system.run second).holds = true →
    first = second

theorem exclusive_start (files : FileSystem) (builder : Builder) (tasks : Name → Task) :
    Exclusive (start files builder tasks) := by
  have free (name : Name) : ((start files builder tasks).run name).holds = false := by
    show (tasks name).begin.holds = false
    cases tasks name <;> rfl
  refine ⟨⟨fun claimed => (nomatch claimed), ?_⟩, ?_⟩
  · rintro ⟨name, holds⟩
    rw [free] at holds
    cases holds
  · intro first second holds
    rw [free] at holds
    cases holds

variable [DecidableEq Name]

/-- What every turn keeps holds after any turns when it holds before them. -/
theorem takeAll_induction {property : System Name → Prop}
    (kept : ∀ system turn, property system → property (system.take turn)) (initial : property system)
    (turns : List (Turn Name)) : property (system.takeAll turns) := by
  induction turns generalizing system with
  | nil => exact initial
  | cons turn rest inductionHypothesis => exact inductionHypothesis (kept system turn initial)

theorem run_take_self (system : System Name) (turn : Turn Name) :
    (system.take turn).run turn.name =
      ((system.run turn.name).advance turn.interruption system.workspace).2 :=
  Function.update_self ..

theorem run_take_of_ne {name : Name} {turn : Turn Name} (other : name ≠ turn.name) (system : System Name) :
    (system.take turn).run name = system.run name :=
  Function.update_of_ne other ..

/-- When the run at turn holds the context exactly if it is claimed, and nobody else does before the turn,
the same is so afterwards. -/
theorem exclusive_take_of_matching {turn : Turn Name}
    (matching : system.workspace.context.claimed = (system.run turn.name).holds)
    (others : ∀ name, name ≠ turn.name → (system.run name).holds = false) :
    Exclusive (system.take turn) := by
  have claimed : (system.take turn).workspace.context.claimed =
      ((system.take turn).run turn.name).holds := by
    rw [run_take_self]
    exact Run.claimed_advance turn.interruption matching
  have only (name : Name) (holds : ((system.take turn).run name).holds = true) : name = turn.name := by
    by_contra other
    rw [run_take_of_ne other, others name other] at holds
    cases holds
  refine ⟨⟨fun held => ⟨turn.name, claimed ▸ held⟩, ?_⟩, ?_⟩
  · rintro ⟨name, holds⟩
    rw [claimed, ← only name holds]
    exact holds
  · intro first second firstHolds secondHolds
    rw [only first firstHolds, only second secondHolds]

theorem exclusive_take (system : System Name) (turn : Turn Name) (exclusive : Exclusive system) :
    Exclusive (system.take turn) := by
  cases holds : (system.run turn.name).holds with
  | true =>
    -- The holder goes on; nobody else can hold the context.
    refine exclusive_take_of_matching ?_ fun name other => ?_
    · rw [holds]
      exact exclusive.claimed_iff.mpr ⟨turn.name, holds⟩
    · by_contra both
      exact other (exclusive.alone name turn.name (by simpa using both) holds)
  | false =>
    cases claimed : system.workspace.context.claimed with
    | false =>
      -- The context is free, and the run may claim it.
      refine exclusive_take_of_matching (by rw [holds, claimed]) fun name _ => ?_
      by_contra held
      have taken := exclusive.claimed_iff.mpr ⟨name, by simpa using held⟩
      rw [claimed] at taken
      cases taken
    | true =>
      -- Another run holds the context, and nothing changes.
      obtain ⟨same, out⟩ := Run.advance_of_claimed turn.interruption holds claimed
      have workspace : (system.take turn).workspace = system.workspace := same
      have unchanged (name : Name) : ((system.take turn).run name).holds = (system.run name).holds := by
        by_cases own : name = turn.name
        · rw [own, run_take_self, holds, out]
        · rw [run_take_of_ne own]
      refine ⟨?_, fun first second => ?_⟩
      · simp only [workspace, unchanged]
        exact exclusive.claimed_iff
      · simp only [unchanged]
        exact exclusive.alone first second

theorem serves_takeAll (files : FileSystem) (builder : Builder) (tasks : Name → Task)
    (turns : List (Turn Name)) (name : Name) :
    Serves (tasks name) (((start files builder tasks).takeAll turns).run name) := by
  let served (system : System Name) := ∀ name, Serves (tasks name) (system.run name)
  have kept (system : System Name) (turn : Turn Name) (serves : served system) :
      served (system.take turn) := by
    intro name
    by_cases own : name = turn.name
    · rw [own, run_take_self]
      exact (serves turn.name).advance turn.interruption system.workspace
    · rw [run_take_of_ne own]
      exact serves name
  have initial : served (start files builder tasks) := fun name => serves_begin (tasks name)
  exact takeAll_induction kept initial turns name

/-- Every turn of a transformation takes one from what is left of it. -/
theorem left_takeAll (system : System Name) (turns : List (Turn Name)) (name : Name) :
    ((system.takeAll turns).run name).left ≤
      (system.run name).left - turns.countP fun turn => turn.name = name := by
  induction turns generalizing system with
  | nil => exact Nat.le_refl _
  | cons turn rest inductionHypothesis =>
    have later := inductionHypothesis (system.take turn)
    by_cases own : turn.name = name
    · subst own
      have fewer := Run.left_advance turn.interruption system.workspace (system.run turn.name)
      rw [← run_take_self] at fewer
      rw [List.countP_cons_of_pos (by simp)]
      exact Nat.le_trans later (by omega)
    · rw [run_take_of_ne (Ne.symm own)] at later
      rw [List.countP_cons_of_neg (by simpa using own)]
      exact later

/-- What is true of runs that share a context, at any time. -/
structure Orderly (tasks : Name → Task) (turns : List (Turn Name)) (system : System Name) : Prop where
  /-- The context is claimed exactly while a run holds it, and at most one does. -/
  exclusive : Exclusive system
  /-- A run that finds the context claimed ends with the refusal and leaves everything as it is. -/
  refused : ∀ name interruption, system.workspace.context.claimed = true →
    (system.run name).holds = false → (system.run name).outcome? = none →
    (system.take ⟨name, interruption⟩).workspace = system.workspace ∧
      ((system.take ⟨name, interruption⟩).run name).outcome? = some (.error .inUse)
  /-- A run that has ended, refused or not, leaves everything as it is from then on. -/
  ended : ∀ name interruption outcome, (system.run name).outcome? = some outcome →
    (system.take ⟨name, interruption⟩).workspace = system.workspace ∧
      ((system.take ⟨name, interruption⟩).run name).outcome? = some outcome
  /-- Once all runs have ended, the context is free. -/
  released : (∀ name, (system.run name).outcome?.isSome = true) → system.workspace.context.claimed = false
  /-- A callback is given one result at most. -/
  once : ∀ name, (system.run name).received.length ≤ 1
  /-- After eight turns of its own a transformation in the background has ended, and its callback was given
  the result that reports how: a failure that says so if it was refused or interrupted. -/
  reported : ∀ name job, tasks name = .background job true →
    8 ≤ turns.countP (fun turn => turn.name = name) →
    ∃ outcome, (system.run name).outcome? = some (outcome.map some) ∧
      (system.run name).received = [report outcome] ∧
      ∀ exception, outcome = .error exception →
        report outcome = { success := false, error := some exception.text }

theorem received_of_serves {task : Task} {run : Run} (serves : Serves task run) :
    run.received.length ≤ 1 := by
  cases serves with
  | block course => exact Nat.zero_le 1
  | call course => exact Nat.zero_le 1
  | waiting course => exact Nat.zero_le 1
  | @reported job callback course outcome ended => cases callback <;> simp [Run.received]

/-- A transformation in the background for which nothing is left to do has been reported. -/
theorem reported_of_serves {job : Job} {run : Run} (serves : Serves (.background job true) run)
    (finished : run.left = 0) :
    ∃ outcome, run.outcome? = some (outcome.map some) ∧ run.received = [report outcome] := by
  cases serves with
  | waiting course => simp [Run.left] at finished
  | @reported _ _ course outcome ended =>
    refine ⟨outcome, ?_, rfl⟩
    rw [Run.outcome?, ended, Option.map_some]

/-- Runs that share a context are orderly, however many they are and whatever turns they take. -/
theorem orderly_takeAll (files : FileSystem) (builder : Builder) (tasks : Name → Task)
    (turns : List (Turn Name)) :
    Orderly tasks turns ((start files builder tasks).takeAll turns) := by
  have exclusive := takeAll_induction exclusive_take (exclusive_start files builder tasks) turns
  refine ⟨exclusive, ?_, ?_, fun finished => ?_, fun name => ?_, fun name job task enough => ?_⟩
  · intro name interruption claimed free unfinished
    rw [run_take_self]
    exact Run.advance_of_refused interruption unfinished free claimed
  · intro name interruption outcome ended
    rw [run_take_self]
    exact Run.advance_of_outcome interruption ended
  · by_contra held
    obtain ⟨name, holds⟩ := exclusive.claimed_iff.mp (by simpa using held)
    obtain ⟨outcome, ended⟩ := Option.isSome_iff_exists.mp (finished name)
    rw [Run.holds_of_outcome ended] at holds
    cases holds
  · exact received_of_serves (serves_takeAll files builder tasks turns name)
  · have serves := serves_takeAll files builder tasks turns name
    have few := left_takeAll (start files builder tasks) turns name
    have initially : ((start files builder tasks).run name).left = 8 := by
      show (tasks name).begin.left = 8
      rw [task]
      rfl
    rw [task] at serves
    obtain ⟨outcome, came, received⟩ := reported_of_serves serves (by omega)
    refine ⟨outcome, came, received, ?_⟩
    rintro exception rfl
    rfl

end System

end TraceAutomata.Turns
