import TraceAutomata.Proofs.Chain.Construction
import TraceAutomata.Proofs.FileSystem
import TraceAutomata.Proofs.Transformation.Course
import TraceAutomata.Runtime.Standard

/-!
# What a transformation delivers

A transformation succeeds exactly when it is `Ready`: the trace is read, the directory of the document
stands or is made, and the document can be opened. `Reached` says for each stage what the files are by
then, `reached_step` carries it from stage to stage, and `result_truthful` reads the result off the last
one: a success names a document that is there, and a failure has changed no file.
-/

namespace TraceAutomata

/-- A text that begins with one that is not empty is not empty. -/
theorem Text.append_ne_empty {front : String} (present : front ≠ "") (back : String) : front ++ back ≠ "" := by
  simp [present]

theorem TraceError.aboutRow_ne_empty (row : Nat) (rest : String) : aboutRow row rest ≠ "" :=
  Text.append_ne_empty (Text.append_ne_empty (Text.append_ne_empty (by decide) _) _) _

/-- Every error of a trace has a wording. -/
theorem TraceError.message_ne_empty [Runtime] (error : TraceError) : error.message ≠ "" := by
  cases error with
  | fileNotFound path => exact Text.append_ne_empty (by decide) _
  | unreadable path detail =>
    exact Text.append_ne_empty (Text.append_ne_empty (Text.append_ne_empty (by decide) _) _) _
  | malformed => exact (by decide : "Invalid trace document: YAML" ≠ "")
  | notAMapping => exact (by decide : "Trace must be a mapping with a 'statements' list" ≠ "")
  | statementsNotAList => exact (by decide : "'statements' must be a list" ≠ "")
  | rowNotAMapping row kind => exact aboutRow_ne_empty row _
  | missingKind row => exact aboutRow_ne_empty row _
  | unknownKind row shown => exact aboutRow_ne_empty row _
  | unknownScope row shown => exact aboutRow_ne_empty row _
  | expressionsNotAList row => exact aboutRow_ne_empty row _
  | missingExpression row => exact aboutRow_ne_empty row _

/-- Every fault of the system has a wording. -/
theorem FileFault.message_ne_empty [Runtime] (fault : FileFault) : fault.message ≠ "" := by
  have number : "[Errno " ++ Text.decimal fault.problem.number ≠ "" := Text.append_ne_empty (by decide) _
  have wording := Text.append_ne_empty (Text.append_ne_empty number "] ") fault.problem.wording
  exact Text.append_ne_empty (Text.append_ne_empty wording ": ") (Text.quoted fault.path)

namespace Transformation

/-! ## The network of a trace -/

section Building

variable {job : Job} {trace : Trace} {network : Network}

/-- The network of a trace, as a traversal builds it on any builder. -/
def Builds (job : Job) (trace : Trace) (network : Network) : Prop :=
  ∀ builder, (Traversal.build job.config trace.name trace.statements builder).answer = .ok network

/-- A traversal builds one network of a trace: its chain. -/
theorem builds_iff : Builds job trace network ↔
    network = Chain.network job.config trace.name trace.statements := by
  constructor
  · intro builds
    have answered := (builds {}).symm.trans (Chain.answer_build job.config trace.name trace.statements {})
    exact Except.ok.inj answered
  · rintro rfl
    exact Chain.answer_build job.config trace.name trace.statements

/-- A traversal builds a network of every trace. -/
theorem exists_builds (job : Job) (trace : Trace) : ∃ network, Builds job trace network :=
  ⟨_, builds_iff.mpr rfl⟩

end Building

section Delivering

variable [Runtime] {job : Job} {before after files made : FileSystem} {trace : Trace} {place : Place}
  {network : Network} {document path : String}

/-! ## Readiness -/

/-- The files once the directory of the document stands, and whether it does; a path without a directory
asks for none. -/
def prepare (job : Job) (files : FileSystem) : FileSystem × Except AccessFault Unit :=
  let directory := Path.directory job.outputPath.toList
  if directory.isEmpty then (files, .ok ()) else files.ensureDirectory directory

/-- All that a document needs: the trace is read, the directory stands or is made, and the document can be
opened for writing. -/
structure Ready (job : Job) (before : FileSystem) (trace : Trace) (made : FileSystem) (place : Place) :
    Prop where
  loaded : (Trace.ofFile before job.trace none).outcome = .ok trace
  prepared : prepare job before = (made, .ok ())
  opened : made.placeToWrite (Path.document job.outputPath.toList) = .ok place

/-- Preparing the directory changes the content of no file, also when it fails. -/
theorem content?_prepare {outcome : Except AccessFault Unit} (prepared : prepare job before = (made, outcome))
    (place : Place) : made.content? place = before.content? place := by
  unfold prepare at prepared
  dsimp only at prepared
  split at prepared
  · cases prepared
    rfl
  · have kept := FileSystem.content?_ensureDirectory before (Path.directory job.outputPath.toList) place
    rwa [prepared] at kept

/-! ## What is left -/

/-- The document of a network is saved at a place, and no other file is changed. -/
structure DocumentSaved (job : Job) (network : Network) (before after : FileSystem) (place : Place) :
    Prop where
  opened : after.placeToWrite (Path.document job.outputPath.toList) = .ok place
  stored : ∃ document bytes, (Xml.render network).outcome = .ok document ∧
    Text.encode document = .ok bytes ∧ after.content? place = some bytes
  untouched : ∀ other, other ≠ place → after.content? other = before.content? other

/-- The model dump of a network is saved beside the document, and no other file is changed. -/
structure DumpSaved (job : Job) (network : Network) (before after : FileSystem) (place : Place)
    (path : String) : Prop where
  wanted : job.config.writeDump = true
  saved : ∃ text dumpPlace, network.dump.toYaml = .ok text ∧
    after.placeToWrite (Path.dump path.toList) = .ok dumpPlace ∧ dumpPlace ≠ place ∧
    after.readFile (Path.dump path.toList) = .ok (Text.encodeUtf8 text) ∧
    ∀ other, other ≠ place → other ≠ dumpPlace → after.content? other = before.content? other

/-- No model dump is saved, because none is wanted or its file cannot be opened, and no file but the
document is changed. -/
structure DumpLeftOut (job : Job) (before after : FileSystem) (place : Place) (path : String) : Prop where
  excused : job.config.writeDump = false ∨
    ∀ dumpPlace, after.placeToWrite (Path.dump path.toList) ≠ .ok dumpPlace
  untouched : ∀ other, other ≠ place → after.content? other = before.content? other

/-- The document of a network is in the file that a path names, next to nothing but the model dump. -/
structure Delivered (job : Job) (network : Network) (before after : FileSystem) (place : Place)
    (path : String) : Prop where
  named : path = String.ofList (Path.document job.outputPath.toList)
  extension : Path.documentExtension <:+ path.toList
  stored : ∃ document bytes, (Xml.render network).outcome = .ok document ∧
    Text.encode document = .ok bytes ∧ after.readFile path.toList = .ok bytes
  dump : DumpSaved job network before after place path ∨ DumpLeftOut job before after place path

/-- What is known once a verdict has come. -/
def Settled (job : Job) (before after : FileSystem) : Verdict → Prop
  | .written path => ∃ trace made place network, Ready job before trace made place ∧
      Builds job trace network ∧ Delivered job network before after place path
  | .failed reason => (∀ trace made place, ¬Ready job before trace made place) ∧ reason ≠ "" ∧
      ∀ place, after.content? place = before.content? place
  | .escaped _ => True

/-- What is known of the files at each stage. -/
def Reached (job : Job) (before files : FileSystem) : Stage → Prop
  | .starting | .loading => files = before
  | .building trace => files = before ∧ (Trace.ofFile before job.trace none).outcome = .ok trace
  | .placing network => files = before ∧ ∃ trace,
      (Trace.ofFile before job.trace none).outcome = .ok trace ∧ Builds job trace network
  | .saving network => prepare job before = (files, .ok ()) ∧ ∃ trace,
      (Trace.ofFile before job.trace none).outcome = .ok trace ∧ Builds job trace network
  | .dumping network path => ∃ trace made place, Ready job before trace made place ∧
      Builds job trace network ∧ path = String.ofList (Path.document job.outputPath.toList) ∧
      DocumentSaved job network before files place
  | .leaving verdict | .ended verdict => Settled job before files verdict

/-! ## Step by step -/

theorem reached_load (job : Job) (workspace : Workspace) :
    Reached job workspace.files (load job workspace).workspace.files (load job workspace).stage := by
  unfold load
  dsimp only
  split
  · rename_i trace loaded
    exact ⟨rfl, loaded⟩
  · rename_i error unread
    refine ⟨fun trace made place ready => ?_, error.message_ne_empty, fun _ => rfl⟩
    have loaded := ready.loaded
    rw [unread] at loaded
    cases loaded
  · trivial

theorem reached_build (workspace : Workspace)
    (loaded : (Trace.ofFile workspace.files job.trace none).outcome = .ok trace) :
    Reached job workspace.files (build job trace workspace).workspace.files
      (build job trace workspace).stage := by
  obtain ⟨network, builds⟩ := exists_builds job trace
  have answered : (Traversal.build job.config trace.name trace.statements
      workspace.context.builder).answer = .ok network := builds _
  simp only [build, answered]
  exact ⟨rfl, trace, loaded, builds⟩

/-- The step that makes the directory is the preparation. -/
theorem reached_place (workspace : Workspace)
    (loaded : (Trace.ofFile workspace.files job.trace none).outcome = .ok trace)
    (builds : Builds job trace network) :
    Reached job workspace.files (Transformation.place job network workspace).workspace.files
      (Transformation.place job network workspace).stage := by
  unfold Transformation.place
  by_cases none : (Path.directory job.outputPath.toList).isEmpty = true
  · have prepared : prepare job workspace.files = (workspace.files, .ok ()) := if_pos none
    simp only [none, if_true]
    exact ⟨prepared, trace, loaded, builds⟩
  · have prepared : prepare job workspace.files =
        workspace.files.ensureDirectory (Path.directory job.outputPath.toList) := if_neg none
    simp only [none, Bool.false_eq_true, if_false, ← prepared]
    cases made : prepare job workspace.files with
    | mk files outcome =>
      cases outcome with
      | ok _ => exact ⟨made, trace, loaded, builds⟩
      | error fault =>
        cases fault with
        | value fault => trivial
        | refused fault =>
          refine ⟨fun trace standing place ready => ?_, fault.message_ne_empty, content?_prepare made⟩
          have stands := ready.prepared
          rw [made] at stands
          cases stands

/-- Writing the document saves it and changes no other file. -/
theorem Ready.documentSaved {bytes : List UInt8} (ready : Ready job before trace made place)
    (rendered : (Xml.render network).outcome = .ok document) (encoded : Text.encode document = .ok bytes) :
    DocumentSaved job network before (made.put place (.file bytes)) place := by
  have free := (FileSystem.placeToWrite_eq_ok_iff.mp ready.opened).2.2
  refine ⟨FileSystem.placeToWrite_put free ready.opened, ⟨document, bytes, rendered, encoded, ?_⟩,
    fun other apart => ?_⟩
  · exact FileSystem.content?_put_self (FileSystem.ne_root_of_entryAt? free)
  · rw [FileSystem.content?_put_of_ne apart, content?_prepare ready.prepared]

/-- The document is saved exactly when it can be opened, unless the saving ends with a fault. -/
theorem reached_save (workspace : Workspace) (prepared : prepare job before = (workspace.files, .ok ()))
    (loaded : (Trace.ofFile before job.trace none).outcome = .ok trace)
    (builds : Builds job trace network) :
    Reached job before (save job network workspace).workspace.files (save job network workspace).stage := by
  unfold save saveDocument saveRendered
  cases rendered : (Xml.render network).outcome with
  | error error => trivial
  | ok document =>
    simp only [String.toList_ofList]
    cases opened : workspace.files.placeToWrite (Path.document job.outputPath.toList) with
    | ok place =>
      have ready : Ready job before trace workspace.files place := ⟨loaded, prepared, opened⟩
      cases encoded : Text.encode document with
      | error fault => trivial
      | ok bytes => exact ⟨trace, workspace.files, place, ready, builds, rfl, ready.documentSaved rendered encoded⟩
    | error fault =>
      cases fault with
      | value fault => trivial
      | refused fault =>
        refine ⟨fun trace made place ready => ?_, Text.append_ne_empty (by decide) _,
          content?_prepare prepared⟩
        have standing := ready.prepared
        rw [prepared] at standing
        cases standing
        have writable := ready.opened
        rw [opened] at writable
        cases writable

/-- A saved document is delivered when there is no model dump to go with it. -/
theorem DocumentSaved.delivered (saved : DocumentSaved job network before files place)
    (excused : job.config.writeDump = false ∨ ∀ dumpPlace,
      files.placeToWrite (Path.dump (Path.document job.outputPath.toList)) ≠ .ok dumpPlace) :
    Delivered job network before files place (String.ofList (Path.document job.outputPath.toList)) := by
  obtain ⟨document, bytes, rendered, encoded, stored⟩ := saved.stored
  refine ⟨rfl, ?_, ⟨document, bytes, rendered, encoded, ?_⟩, .inr ⟨?_, saved.untouched⟩⟩
  · rw [String.toList_ofList]
    exact Path.suffix_document job.outputPath.toList
  · rw [String.toList_ofList]
    exact FileSystem.readFile_of_content? saved.opened stored
  · rw [String.toList_ofList]
    exact excused

/-- A saved document stays delivered when its model dump is written. -/
theorem DocumentSaved.delivered_put {dumpPlace : Place} {text : String}
    (saved : DocumentSaved job network before files place) (wanted : job.config.writeDump = true)
    (opened : files.placeToWrite (Path.dump (Path.document job.outputPath.toList)) = .ok dumpPlace)
    (rendered : network.dump.toYaml = .ok text) :
    Delivered job network before (files.put dumpPlace (.file (Text.encodeUtf8 text))) place
      (String.ofList (Path.document job.outputPath.toList)) := by
  have free := (FileSystem.placeToWrite_eq_ok_iff.mp opened).2.2
  have apart := FileSystem.place_dump_ne_document saved.opened opened
  have openedStill : (files.put dumpPlace (.file (Text.encodeUtf8 text))).placeToWrite
      (Path.dump (Path.document job.outputPath.toList)) = .ok dumpPlace :=
    FileSystem.placeToWrite_put free opened
  obtain ⟨document, bytes, written, encoded, stored⟩ := saved.stored
  refine ⟨rfl, ?_, ⟨document, bytes, written, encoded, ?_⟩,
    .inl ⟨wanted, text, dumpPlace, rendered, ?_, apart, ?_, fun other notDocument notDump => ?_⟩⟩
  · rw [String.toList_ofList]
    exact Path.suffix_document job.outputPath.toList
  · rw [String.toList_ofList]
    refine FileSystem.readFile_of_content? (FileSystem.placeToWrite_put free saved.opened) ?_
    rw [FileSystem.content?_put_of_ne apart.symm]
    exact stored
  · rw [String.toList_ofList]
    exact openedStill
  · rw [String.toList_ofList]
    exact FileSystem.readFile_of_content? openedStill
      (FileSystem.content?_put_self (FileSystem.ne_root_of_entryAt? free))
  · rw [FileSystem.content?_put_of_ne notDump, saved.untouched other notDocument]

/-- The document stays as it is when the model dump is saved, and so does every other file. -/
theorem reached_dump (workspace : Workspace)
    (reached : Reached job before workspace.files (.dumping network path)) :
    Reached job before (dump job network path workspace).workspace.files
      (dump job network path workspace).stage := by
  obtain ⟨trace, made, place, ready, builds, rfl, saved⟩ := reached
  unfold dump
  by_cases wanted : job.config.writeDump = true
  · simp only [wanted, if_true, saveDump, FileSystem.writeFile, String.toList_ofList]
    cases opened : workspace.files.placeToWrite (Path.dump (Path.document job.outputPath.toList)) with
    | error fault =>
      cases fault with
      | value fault => trivial
      | refused fault =>
        exact ⟨trace, made, place, network, ready, builds, saved.delivered (.inr (by simp [opened]))⟩
    | ok dumpPlace =>
      dsimp only [Except.map]
      cases rendered : network.dump.toYaml with
      | error fault => trivial
      | ok text =>
        -- The file was emptied first, and it still stands where it did.
        have free := (FileSystem.placeToWrite_eq_ok_iff.mp opened).2.2
        dsimp only
        rw [FileSystem.placeToWrite_put free opened]
        dsimp only
        rw [FileSystem.put_put]
        exact ⟨trace, made, place, network, ready, builds, saved.delivered_put wanted opened rendered⟩
  · simp only [wanted]
    exact ⟨trace, made, place, network, ready, builds, saved.delivered (.inl (by simpa using wanted))⟩

/-- What is known at a stage is known of the next stage. -/
theorem reached_step (job : Job) (before : FileSystem) (workspace : Workspace) (stage : Stage)
    (reached : Reached job before workspace.files stage) :
    Reached job before (step job workspace stage).workspace.files (step job workspace stage).stage := by
  cases stage with
  | starting =>
    obtain rfl := reached
    simp only [step, start]
    split
    · trivial
    · rfl
  | loading =>
    obtain rfl := reached
    exact reached_load job workspace
  | building trace =>
    obtain ⟨rfl, loaded⟩ := reached
    exact reached_build workspace loaded
  | placing network =>
    obtain ⟨rfl, trace, loaded, builds⟩ := reached
    exact reached_place workspace loaded builds
  | saving network =>
    obtain ⟨prepared, trace, loaded, builds⟩ := reached
    exact reached_save workspace prepared loaded builds
  | dumping network path => exact reached_dump workspace reached
  | leaving verdict => exact reached
  | ended verdict => exact reached

/-- What is known once a verdict has come holds of every transformation. -/
theorem settled_run (job : Job) (workspace : Workspace) :
    Settled job workspace.files (run job workspace).workspace.files (run job workspace).verdict := by
  let known (current : Workspace) (stage : Stage) := Reached job workspace.files current.files stage
  have initial : known workspace .starting := rfl
  exact runFrom_induction (reached_step job workspace.files) initial

/-! ## Results -/

/-- What a result says agrees with the files before and after. -/
structure Truthful (job : Job) (before after : FileSystem) (result : RunResult) : Prop where
  success_iff : result.success = true ↔ ∃ trace made place, Ready job before trace made place
  delivered : result.success = true → result.error = none ∧ ∃ path, result.outputPath = some path ∧
    ∃ trace made place network, Ready job before trace made place ∧ Builds job trace network ∧
      Delivered job network before after place path
  untouched : result.success = false → result.outputPath = none ∧
    (∃ reason, result.error = some reason ∧ reason ≠ "") ∧
    ∀ place, after.content? place = before.content? place

/-- Whenever a transformation on a free context answers, its result tells the truth about the files. -/
theorem result_truthful (job : Job) (files : FileSystem) (builder : Builder) (result : RunResult)
    (answered : (run job { files, context := { builder } }).verdict.result = .ok result) :
    Truthful job files (run job { files, context := { builder } }).workspace.files result := by
  have settled := settled_run job { files, context := { builder } }
  cases verdict : (run job { files, context := { builder } }).verdict with
  | written path =>
    rw [verdict] at settled answered
    cases answered
    obtain ⟨trace, made, place, network, ready, rest⟩ := settled
    exact {
      success_iff := ⟨fun _ => ⟨trace, made, place, ready⟩, fun _ => rfl⟩
      delivered := fun _ => ⟨rfl, path, rfl, trace, made, place, network, ready, rest⟩
      untouched := fun failed => nomatch failed }
  | failed reason =>
    rw [verdict] at settled answered
    cases answered
    obtain ⟨unready, worded, same⟩ := settled
    exact {
      success_iff := ⟨fun succeeded => (nomatch succeeded),
        fun ⟨trace, made, place, ready⟩ => absurd ready (unready trace made place)⟩
      delivered := fun succeeded => nomatch succeeded
      untouched := fun _ => ⟨rfl, ⟨reason, rfl, worded⟩, same⟩ }
  | escaped fault =>
    rw [verdict] at answered
    cases answered

end Delivering

section Standard

open scoped TraceAutomata.Runtime

/-- A trace without statements in the file `a`, with a model dump wanted. -/
theorem result_truthful_of_empty_list :
    let files : FileSystem := ⟨[([['a']], .file [91, 93])], []⟩
    let job : Job := { trace := "a", config := { writeDump := true } }
    let result : RunResult := { success := true, outputPath := some "a.xml" }
    (run job { files }).verdict.result = .ok result ∧
      Truthful job files (run job { files }).workspace.files result := by
  intro files job result
  have answered : (run job { files }).verdict.result = .ok result := by decide +kernel
  exact ⟨answered, result_truthful job files {} result answered⟩

end Standard

end Transformation

end TraceAutomata
