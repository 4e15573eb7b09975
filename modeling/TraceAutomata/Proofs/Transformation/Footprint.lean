import TraceAutomata.Proofs.Transformation.Delivery

/-!
# What a transformation writes

A transformation makes directories and writes two files, the document and the model dump. `Spared` says that
every path still leads where it did and that no other file has changed; `spared_step` carries it from stage
to stage, and `spared_run` to the end, however the run ends.

The names of the two files come from the name of the trace. That of the model dump always differs from it,
and that of the document does unless the trace itself has the extension of a document. So `trace_kept` says
that a run leaves its trace as it was, with this one exception, which `trace_replaced` shows to be one.
-/

namespace TraceAutomata.Transformation

/-- Without an output of its own, a job writes to the path that belongs to its trace. -/
theorem toList_outputPath {job : Job} (unnamed : ∀ given, job.output = some given → given = "") :
    job.outputPath.toList =
      Path.defaultOutput (job.config.outputDirectory.map String.toList) job.trace.toList := by
  have derived : job.outputPath = job.config.defaultOutput job.trace := by
    unfold Job.outputPath
    split
    · rename_i given named
      rw [unnamed given named]
      rfl
    · rfl
  rw [derived, Config.defaultOutput, String.toList_ofList]

section Footprint

variable [Runtime] {job : Job} {before files : FileSystem} {place : Place}

/-! ## The two files -/

/-- A place that the document of a job may be written to. -/
def DocumentPlace (job : Job) (before : FileSystem) (place : Place) : Prop :=
  ∃ made, prepare job before = (made, .ok ()) ∧
    made.placeToWrite (Path.document job.outputPath.toList) = .ok place

/-- A place that the model dump of a job may be written to. -/
def DumpPlace (job : Job) (place : Place) : Prop :=
  ∃ files : FileSystem, files.placeToWrite (Path.dump (Path.document job.outputPath.toList)) = .ok place

theorem DocumentPlace.getLast? (written : DocumentPlace job before place) :
    place.getLast? = some (Path.lastComponent (Path.document job.outputPath.toList)) := by
  obtain ⟨made, -, opened⟩ := written
  exact FileSystem.getLast?_of_locate (Path.two_lt_length_document _)
    (FileSystem.placeToWrite_eq_ok_iff.mp opened).2.1

theorem DumpPlace.getLast? (written : DumpPlace job place) :
    place.getLast? = some (Path.lastComponent (Path.dump (Path.document job.outputPath.toList))) := by
  obtain ⟨files, opened⟩ := written
  exact FileSystem.getLast?_of_locate (Path.two_lt_length_dump _)
    (FileSystem.placeToWrite_eq_ok_iff.mp opened).2.1

/-! ## Everything else -/

/-- Every path leads where it did, and only the two files of a job may have changed. What stands, stands in
directories if it did before. -/
structure Spared (job : Job) (before files : FileSystem) : Prop where
  rooted : before.Rooted → files.Rooted
  located : ∀ path place, before.locate path = .ok place → files.locate path = .ok place
  content : ∀ place, files.content? place = before.content? place ∨
    DocumentPlace job before place ∨ DumpPlace job place

theorem Spared.refl (job : Job) (before : FileSystem) : Spared job before before where
  rooted standing := standing
  located _ _ leads := leads
  content _ := .inl rfl

/-- Preparing the directory spares all files. -/
theorem Spared.prepare (job : Job) (before : FileSystem) : Spared job before (prepare job before).1 := by
  unfold Transformation.prepare
  dsimp only
  split
  · exact .refl job before
  · constructor
    · intro rooted
      exact rooted.ensureDirectory _
    · intro path place leads
      exact FileSystem.locate_ensureDirectory _ leads
    · intro place
      exact .inl (FileSystem.content?_ensureDirectory before _ place)

/-- Writing one of the two files spares all others. -/
theorem Spared.put {path : List Char} {content : List UInt8} (spared : Spared job before files)
    (opened : files.placeToWrite path = .ok place)
    (own : DocumentPlace job before place ∨ DumpPlace job place) :
    Spared job before (files.put place (.file content)) := by
  obtain ⟨-, located, free⟩ := FileSystem.placeToWrite_eq_ok_iff.mp opened
  constructor
  · intro rooted
    have standing := spared.rooted rooted
    exact standing.put (standing.above located) free
  · intro other found leads
    exact FileSystem.locate_put free (spared.located other found leads)
  · intro other
    by_cases same : other = place
    · subst same
      exact .inr own
    · rw [FileSystem.content?_put_of_ne same]
      exact spared.content other

/-! ## Step by step -/

/-- Saving a document writes at the place of its path or nothing at all. -/
theorem files_saveRendered {Refusal : Type} (rendered : Journaled Refusal String) (path : String)
    (files : FileSystem) :
    (saveRendered rendered path files).files = files ∨
      ∃ place content, files.placeToWrite (Path.document path.toList) = .ok place ∧
        (saveRendered rendered path files).files = files.put place (.file content) := by
  unfold saveRendered
  dsimp only
  split
  · exact .inl rfl
  · rename_i document _
    rw [String.toList_ofList]
    cases opened : files.placeToWrite (Path.document path.toList) with
    | error fault => cases fault <;> exact .inl rfl
    | ok place =>
      right
      cases Text.encode document with
      | error fault => exact ⟨place, [], rfl, rfl⟩
      | ok bytes => exact ⟨place, bytes, rfl, rfl⟩

/-- Saving a model dump writes at the place of its path or nothing at all. -/
theorem files_saveDump (dump : Dump) (path : String) (files : FileSystem) :
    (saveDump dump path files).files = files ∨
      ∃ place content, files.placeToWrite (Path.dump path.toList) = .ok place ∧
        (saveDump dump path files).files = files.put place (.file content) := by
  unfold saveDump
  dsimp only
  rw [String.toList_ofList, FileSystem.writeFile]
  cases opened : files.placeToWrite (Path.dump path.toList) with
  | error fault => cases fault <;> exact .inl rfl
  | ok place =>
    have free := (FileSystem.placeToWrite_eq_ok_iff.mp opened).2.2
    right
    dsimp only [Except.map]
    cases dump.toYaml with
    | error fault => exact ⟨place, [], rfl, rfl⟩
    | ok text =>
      -- The file was emptied first, and it still stands where it did.
      refine ⟨place, Text.encodeUtf8 text, rfl, ?_⟩
      dsimp only
      rw [FileSystem.writeFile, FileSystem.placeToWrite_put free opened]
      exact FileSystem.put_put files place (.file []) (.file (Text.encodeUtf8 text))

/-- The step that makes the directory leaves the files that the preparation leaves. -/
theorem files_place (job : Job) (network : Network) (workspace : Workspace) :
    (Transformation.place job network workspace).workspace.files = (prepare job workspace.files).1 := by
  unfold Transformation.place prepare
  dsimp only
  split
  · rfl
  · split <;> rfl

/-- One step spares all but the two files. -/
theorem spared_step (job : Job) (before : FileSystem) (workspace : Workspace) (stage : Stage)
    (reached : Reached job before workspace.files stage) (spared : Spared job before workspace.files) :
    Spared job before (step job workspace stage).workspace.files := by
  cases stage with
  | starting =>
    simp only [step, start]
    split <;> exact spared
  | loading =>
    simp only [step, load, failReported]
    split <;> exact spared
  | building trace =>
    simp only [step, build, failReported]
    split
    · exact spared
    · split <;> exact spared
  | placing network =>
    obtain ⟨same, -⟩ := reached
    rw [step, files_place, same]
    exact .prepare job before
  | saving network =>
    obtain ⟨prepared, -⟩ := reached
    have saved := files_saveRendered (Xml.render network) job.outputPath workspace.files
    rcases saved with same | ⟨place, content, opened, written⟩
    · show Spared job before (saveRendered _ _ _).files
      rw [same]
      exact spared
    · show Spared job before (saveRendered _ _ _).files
      rw [written]
      exact spared.put opened (.inl ⟨workspace.files, prepared, opened⟩)
  | dumping network path =>
    obtain ⟨-, -, -, -, -, rfl, -⟩ := reached
    have saved := files_saveDump network.dump (String.ofList (Path.document job.outputPath.toList))
      workspace.files
    rw [String.toList_ofList] at saved
    simp only [step, dump]
    split
    · rcases saved with same | ⟨place, content, opened, written⟩
      · rw [same]
        exact spared
      · rw [written]
        exact spared.put opened (.inr ⟨workspace.files, opened⟩)
    · exact spared
  | leaving verdict => exact spared
  | ended verdict => exact spared

/-- However a run ends, all but the two files are spared. -/
theorem spared_run (job : Job) (workspace : Workspace) :
    Spared job workspace.files (run job workspace).workspace.files := by
  let known (current : Workspace) (stage : Stage) :=
    Reached job workspace.files current.files stage ∧ Spared job workspace.files current.files
  have kept : ∀ current stage, known current stage →
      known (step job current stage).workspace (step job current stage).stage := by
    rintro current stage ⟨reached, spared⟩
    exact ⟨reached_step job workspace.files current stage reached,
      spared_step job workspace.files current stage reached spared⟩
  have initial : known workspace .starting := ⟨rfl, .refl job workspace.files⟩
  exact (runFrom_induction kept initial).2

/-! ## The trace -/

/-- The document of a job takes the place of its trace, which has the extension of a document itself. -/
structure ReplacesTrace (job : Job) (before : FileSystem) : Prop where
  extension : Path.extension job.trace.toList = Path.documentExtension
  place : ∃ place, before.locate job.trace.toList = .ok place ∧ DocumentPlace job before place

/-- What a job without an output of its own does to its trace. -/
structure KeepsTrace (job : Job) (before after : FileSystem) (content : List UInt8) : Prop where
  dumpElsewhere : Path.dump (Path.document job.outputPath.toList) ≠ job.trace.toList
  documentElsewhere : Path.extension job.trace.toList ≠ Path.documentExtension →
    Path.document job.outputPath.toList ≠ job.trace.toList
  kept : after.readFile job.trace.toList = .ok content ∨ ReplacesTrace job before

/-- A run reads the same from its trace afterwards as before, under all settings, unless its document takes
the place of the trace; and that takes a trace with the extension of a document. -/
theorem trace_kept (job : Job) (workspace : Workspace) {content : List UInt8}
    (unnamed : ∀ given, job.output = some given → given = "") (rooted : workspace.files.Rooted)
    (read : workspace.files.readFile job.trace.toList = .ok content) :
    KeepsTrace job workspace.files (run job workspace).workspace.files content := by
  have derived := toList_outputPath unnamed
  have document : Path.document job.outputPath.toList = job.outputPath.toList := by
    rw [derived, Path.document_defaultOutput]
  have apart : Path.lastComponent (Path.dump (Path.document job.outputPath.toList)) ≠
      Path.lastComponent job.trace.toList := by
    rw [document, derived]
    exact Path.lastComponent_dump_defaultOutput_ne _ _
  have extended (same : Path.lastComponent (Path.document job.outputPath.toList) =
      Path.lastComponent job.trace.toList) :
      Path.extension job.trace.toList = Path.documentExtension := by
    rw [document, derived] at same
    exact Path.extension_of_lastComponent_defaultOutput _ _ same
  have spared := spared_run job workspace
  obtain ⟨clean, place, located, stored⟩ := FileSystem.readFile_eq_ok_iff.mp read
  have ends := FileSystem.getLast?_of_locate_file rooted located stored
  refine ⟨fun same => apart (congrArg Path.lastComponent same),
    fun plain same => plain (extended (congrArg Path.lastComponent same)), ?_⟩
  rcases spared.content place with same | written | written
  · left
    rw [stored] at same
    exact FileSystem.readFile_eq_ok_iff.mpr
      ⟨clean, place, spared.located job.trace.toList place located, same⟩
  · right
    have named := written.getLast?
    rw [ends] at named
    exact ⟨extended (Option.some.inj named).symm, place, located, written⟩
  · have named := written.getLast?
    rw [ends] at named
    exact absurd (Option.some.inj named).symm apart

end Footprint

section Standard

open scoped TraceAutomata.Runtime

/-- A trace that has no extension, with a model dump wanted. -/
theorem trace_kept_without_extension :
    let files : FileSystem := ⟨[([['a']], .file [91, 93])], []⟩
    let job : Job := { trace := "a", config := { writeDump := true } }
    files.Rooted ∧ files.readFile job.trace.toList = .ok [91, 93] ∧
      KeepsTrace job files (run job { files }).workspace.files [91, 93] := by
  intro files job
  have rooted : files.Rooted := by
    intro place component standing
    cases place with
    | nil => rfl
    | cons first rest =>
      have apart : ([['a']] == first :: (rest ++ [component])) = false := by
        cases rest <;> simp
      exact absurd (by simp [FileSystem.entryAt?, files, apart]) standing
  have read : files.readFile job.trace.toList = .ok [91, 93] := by decide +kernel
  have unnamed : ∀ given, job.output = some given → given = "" := by
    rintro given ⟨⟩
  exact ⟨rooted, read, trace_kept job { files } unnamed rooted read⟩

/-- A trace in the file `x.xml` is overwritten by its own document. -/
theorem trace_replaced :
    let files : FileSystem := ⟨[([['x', '.', 'x', 'm', 'l']], .file [91, 93])], []⟩
    let job : Job := { trace := "x.xml" }
    files.readFile job.trace.toList = .ok [91, 93] ∧
      (run job { files }).verdict.result = .ok { success := true, outputPath := some "x.xml" } ∧
      (run job { files }).workspace.files.readFile job.trace.toList ≠ .ok [91, 93] := by
  decide +kernel

end Standard

end TraceAutomata.Transformation
