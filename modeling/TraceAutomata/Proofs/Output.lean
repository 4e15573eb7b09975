import TraceAutomata.Proofs.Path.Extension
import TraceAutomata.Proofs.Saving
import TraceAutomata.Proofs.Transformation.Footprint

/-!
# Where outputs go

The path of a document is put together from the name of its trace in one place. In a second place it gets its
extension where that is missing, and in a third one, where the model dump is saved, it loses the extension again.
`outputs_fit_together` says that the three agree: what is cut off is what was appended, both files lie in the same
directory under different names, and different documents have different model dumps.
-/

namespace TraceAutomata

/-! ## The outputs of a path -/

/-- The path of the model dump that is saved after the document of an output path. -/
def dumpPath (path : String) : String :=
  String.ofList (Path.dump (documentPath path).toList)

/-- The document and the model dump of an output path share all but their extensions. -/
theorem exists_base (path : String) (named : Path.Named path.toList) :
    ∃ base, (path = base ++ ".xml" ∨ path = base ∧ ¬Path.documentExtension <:+ path.toList) ∧
      documentPath path = base ++ ".xml" ∧ dumpPath path = base ++ ".model.yaml" := by
  obtain ⟨base, whole, last⟩ := Path.exists_document_eq_named path.toList
  have document : documentPath path = String.ofList base ++ ".xml" := by
    rw [← String.toList_inj, toList_documentPath, whole, String.toList_append, String.toList_ofList]
    rfl
  refine ⟨String.ofList base, ?_, document, ?_⟩
  · by_cases ends : Path.documentExtension <:+ path.toList
    · left
      rw [← document, documentPath, if_pos ends]
    · right
      rw [documentPath, if_neg ends] at document
      exact ⟨String.append_left_inj _ |>.mp document, ends⟩
  · have cut : Path.dump (documentPath path).toList = base ++ Path.dumpExtension := by
      rw [toList_documentPath, whole]
      exact Path.dump_append_documentExtension (last ▸ named)
    rw [dumpPath, cut, String.ofList_append]
    rfl

theorem directory_dumpPath {path : String} (named : Path.Named path.toList) :
    Path.directory (dumpPath path).toList = Path.directory (documentPath path).toList := by
  obtain ⟨base, -, document, dump⟩ := exists_base path named
  have document : (documentPath path).toList = base.toList ++ Path.documentExtension := by
    rw [document, String.toList_append]
    rfl
  have dump : (dumpPath path).toList = base.toList ++ Path.dumpExtension := by
    rw [dump, String.toList_append]
    rfl
  rw [document, dump, Path.directory_append Path.slashFree_documentExtension,
    Path.directory_append Path.slashFree_dumpExtension]

theorem dumpPath_ne_documentPath (path other : String) : dumpPath path ≠ documentPath other := by
  intro same
  have last := congrArg (fun path => Path.lastComponent path.toList) same
  simp only [dumpPath, toList_documentPath, String.toList_ofList] at last
  exact Path.lastComponent_document_ne_dump _ _ last.symm

/-! ## The outputs of a trace -/

/-- The output path that belongs to a trace under some settings. -/
structure OutputOfTrace (config : Config) (trace : String) : Prop where
  /-- It is named like the trace, with the extension of a document instead of that of the trace. -/
  named : ∃ base extension, Path.Cut (Path.lastComponent trace.toList) base extension ∧
    Path.lastComponent (config.defaultOutput trace).toList = base ++ Path.documentExtension
  /-- It lies in the directory that the settings name. -/
  placed : ∀ given, config.outputDirectory = some given → given ≠ "" →
    Path.LiesIn given.toList (config.defaultOutput trace).toList
  /-- Without one it lies in the directory of the trace. -/
  beside : (∀ given, config.outputDirectory = some given → given = "") →
    Path.LiesIn (Path.directory trace.toList) (config.defaultOutput trace).toList ∧
      Path.directory (config.defaultOutput trace).toList = Path.directory trace.toList
  /-- A document is saved at this very path. -/
  unchanged : documentPath (config.defaultOutput trace) = config.defaultOutput trace

theorem toList_defaultOutput (config : Config) (trace : String) :
    (config.defaultOutput trace).toList =
      Path.defaultOutput (config.outputDirectory.map String.toList) trace.toList := by
  rw [Config.defaultOutput, String.toList_ofList]

theorem Path.defaultOutput_of_directory {given : List Char} (present : given ≠ []) (trace : List Char) :
    defaultOutput (some given) trace = join given (stem trace ++ documentExtension) := by
  cases given with
  | nil => contradiction
  | cons first rest => rfl

theorem Path.defaultOutput_beside {outputDirectory : Option (List Char)}
    (unnamed : ∀ given, outputDirectory = some given → given = []) (trace : List Char) :
    defaultOutput outputDirectory trace = join (directory trace) (stem trace ++ documentExtension) := by
  cases outputDirectory with
  | none => rfl
  | some given =>
    rw [unnamed given rfl]
    rfl

theorem outputOfTrace (config : Config) (trace : String) : OutputOfTrace config trace := by
  have free := Path.slashFree_stem_append_documentExtension trace.toList
  constructor
  · refine ⟨_, _, Path.cut_splitComponent (Path.lastComponent trace.toList), ?_⟩
    rw [toList_defaultOutput]
    exact Path.lastComponent_defaultOutput _ _
  · intro given named present
    have listed : given.toList ≠ [] := by simpa using present
    rw [toList_defaultOutput, named, Option.map_some, Path.defaultOutput_of_directory listed]
    exact Path.liesIn_join given.toList free
  · intro unnamed
    have unlisted : ∀ given, config.outputDirectory.map String.toList = some given → given = [] := by
      intro given listed
      obtain ⟨name, named, rfl⟩ := Option.map_eq_some_iff.mp listed
      rw [unnamed name named]
      rfl
    rw [toList_defaultOutput, Path.defaultOutput_beside unlisted]
    exact ⟨Path.liesIn_join _ free, Path.directory_join_directory trace.toList free⟩
  · rw [← String.toList_inj, toList_documentPath, toList_defaultOutput, Path.document_defaultOutput]

/-! ## What is written -/

/-- The bytes of a model dump, if there is one. -/
def dumpBytes? {ε : Type} (dump : Except ε String) : Option (List UInt8) :=
  dump.toOption.map Text.encodeUtf8

theorem dumpBytes?_eq_some_iff {ε : Type} {dump : Except ε String} {bytes : List UInt8} :
    dumpBytes? dump = some bytes ↔ ∃ text, dump = .ok text ∧ Text.encodeUtf8 text = bytes := by
  cases dump <;> simp [dumpBytes?, Except.toOption]

section Writing

variable [Runtime]

/-- Saving some content at a path: it is stored there if the path can be opened, and no other file is changed and no
other path is answered in any case. -/
structure WritesAt {Refusal : Type} (path : String) (content : Option (List UInt8)) (files : FileSystem)
    (saved : Saved Refusal) : Prop where
  stored : ∀ bytes place, content = some bytes → files.placeToWrite path.toList = .ok place →
    saved.files = files.put place (.file bytes) ∧ saved.outcome = .ok (some path)
  nowhereElse : saved.files = files ∨ ∃ place bytes, files.placeToWrite path.toList = .ok place ∧
    saved.files = files.put place (.file bytes)
  answered : ∀ answer, saved.outcome = .ok (some answer) → answer = path

/-- The bytes of a document, if there is one and it has an encoding. -/
def documentBytes? {ε : Type} (document : Except ε String) : Option (List UInt8) :=
  document.toOption.bind fun text => (Text.encode text).toOption

theorem documentBytes?_eq_some_iff {ε : Type} {document : Except ε String} {bytes : List UInt8} :
    documentBytes? document = some bytes ↔ ∃ text, document = .ok text ∧ Text.encode text = .ok bytes := by
  cases document with
  | error => simp [documentBytes?, Except.toOption]
  | ok text => cases encoded : Text.encode text <;> simp [documentBytes?, Except.toOption, encoded]

theorem writesAt_saveRendered {Refusal : Type} (rendered : Journaled Refusal String) (path : String)
    (files : FileSystem) :
    WritesAt (documentPath path) (documentBytes? rendered.outcome) files (saveRendered rendered path files) := by
  constructor
  · intro bytes place content opened
    obtain ⟨document, made, encoded⟩ := documentBytes?_eq_some_iff.mp content
    rw [saveRendered_of_opened made opened encoded]
    exact ⟨rfl, rfl⟩
  · rw [toList_documentPath]
    exact Transformation.files_saveRendered rendered path files
  · intro answer answered
    unfold saveRendered at answered
    dsimp only at answered
    rw [ofList_document] at answered
    split at answered
    · cases answered
    · split at answered
      · cases answered
      · cases answered
      · split at answered
        · cases answered
        · exact (Option.some.inj (Except.ok.inj answered)).symm

/-- Saving a model dump whose file can be opened. -/
theorem saveDump_of_opened {dump : Dump} {path text : String} {files : FileSystem} {place : Place}
    (written : dump.toYaml = .ok text)
    (opened : files.placeToWrite (Path.dump path.toList) = .ok place) :
    saveDump dump path files = ⟨files.put place (.file (Text.encodeUtf8 text)),
      [.dumpWritten (String.ofList (Path.dump path.toList))],
      .ok (some (String.ofList (Path.dump path.toList)))⟩ := by
  have free := (FileSystem.placeToWrite_eq_ok_iff.mp opened).2.2
  have again : (files.put place (.file [])).placeToWrite (Path.dump path.toList) = .ok place :=
    FileSystem.placeToWrite_put free opened
  simp only [saveDump, String.toList_ofList, FileSystem.writeFile, opened, written, again, Except.map,
    FileSystem.put_put]

theorem writesAt_saveDump (dump : Dump) (path : String) (files : FileSystem) :
    WritesAt (dumpPath path) (dumpBytes? dump.toYaml) files (saveDump dump (documentPath path) files) := by
  constructor
  · intro bytes place content opened
    obtain ⟨text, written, rfl⟩ := dumpBytes?_eq_some_iff.mp content
    rw [dumpPath, String.toList_ofList] at opened
    rw [saveDump_of_opened written opened]
    exact ⟨rfl, rfl⟩
  · rw [dumpPath, String.toList_ofList]
    exact Transformation.files_saveDump dump (documentPath path) files
  · intro answer answered
    unfold saveDump at answered
    dsimp only at answered
    rw [← dumpPath] at answered
    split at answered
    · cases answered
    · cases answered
    · split at answered
      · cases answered
      · split at answered
        · cases answered
        · exact (Option.some.inj (Except.ok.inj answered)).symm

/-- Where the document and the model dump of an output path go. -/
structure OutputsOf (path : String) : Prop where
  /-- The document has its extension appended where it is missing, and the model dump has it replaced. -/
  paths : ∃ base, (path = base ++ ".xml" ∨ path = base ∧ ¬Path.documentExtension <:+ path.toList) ∧
    documentPath path = base ++ ".xml" ∧ dumpPath path = base ++ ".model.yaml"
  /-- Both lie in the same directory. -/
  together : Path.directory (dumpPath path).toList = Path.directory (documentPath path).toList
  /-- A model dump is never a document. -/
  apart : ∀ other, dumpPath path ≠ documentPath other
  /-- A document is saved at the one path. -/
  documentSaved : ∀ {Refusal : Type} (rendered : Journaled Refusal String) (files : FileSystem),
    WritesAt (documentPath path) (documentBytes? rendered.outcome) files (saveRendered rendered path files)
  /-- A model dump that is saved after it goes to the other path. -/
  dumpSaved : ∀ (dump : Dump) (files : FileSystem),
    WritesAt (dumpPath path) (dumpBytes? dump.toYaml) files (saveDump dump (documentPath path) files)
  /-- A transformation changes no file anywhere else. -/
  ran : ∀ (job : Job) (workspace : Workspace) (place : Place), job.outputPath = path →
    (Transformation.run job workspace).workspace.files.content? place ≠ workspace.files.content? place →
      ∃ files : FileSystem, files.placeToWrite (documentPath path).toList = .ok place ∨
        files.placeToWrite (dumpPath path).toList = .ok place

/-- A transformation changes files only at the paths of its document and of its model dump. -/
theorem place_of_changed {path : String} {job : Job} {workspace : Workspace} {place : Place}
    (output : job.outputPath = path)
    (changed : (Transformation.run job workspace).workspace.files.content? place ≠
      workspace.files.content? place) :
    ∃ files : FileSystem, files.placeToWrite (documentPath path).toList = .ok place ∨
      files.placeToWrite (dumpPath path).toList = .ok place := by
  obtain same | ⟨made, -, opened⟩ | ⟨files, opened⟩ :=
    (Transformation.spared_run job workspace).content place
  · exact absurd same changed
  · refine ⟨made, .inl ?_⟩
    rw [← output, toList_documentPath]
    exact opened
  · refine ⟨files, .inr ?_⟩
    rw [← output, dumpPath, String.toList_ofList, toList_documentPath]
    exact opened

/-- The outputs of all traces and of all output paths with a name go where they should: an extension that is cut
off is the one that was appended. -/
theorem outputs_fit_together :
    (∀ config trace, OutputOfTrace config trace) ∧
      (∀ path : String, Path.Named path.toList → OutputsOf path) ∧
      ∀ first second : String, Path.Named first.toList → Path.Named second.toList →
        documentPath first ≠ documentPath second → dumpPath first ≠ dumpPath second := by
  refine ⟨outputOfTrace, fun path named => ?_, fun first second firstNamed secondNamed apart same => ?_⟩
  · exact ⟨exists_base path named, directory_dumpPath named, dumpPath_ne_documentPath path,
      fun rendered files => writesAt_saveRendered rendered path files,
      fun dump files => writesAt_saveDump dump path files,
      fun _ _ _ output changed => place_of_changed output changed⟩
  · obtain ⟨base, -, document, dump⟩ := exists_base first firstNamed
    obtain ⟨other, -, otherDocument, otherDump⟩ := exists_base second secondNamed
    rw [dump, otherDump] at same
    have bases : base = other := String.append_left_inj _ |>.mp same
    exact apart (by rw [document, otherDocument, bases])

end Writing

section Standard

open scoped TraceAutomata.Runtime

/-- Dots in the directory, at the front of the name and inside it. -/
theorem outputs_of_dotted_names :
    Path.Named "out.d/..lamp.v2".toList ∧ Path.Named "out.d/..lamp.xml".toList ∧
      OutputsOf "out.d/..lamp.v2" ∧
      documentPath "out.d/..lamp.v2" ≠ documentPath "out.d/..lamp.xml" ∧
      dumpPath "out.d/..lamp.v2" ≠ dumpPath "out.d/..lamp.xml" := by
  have named : Path.Named "out.d/..lamp.v2".toList := by decide
  have other : Path.Named "out.d/..lamp.xml".toList := by decide
  have apart : documentPath "out.d/..lamp.v2" ≠ documentPath "out.d/..lamp.xml" := by decide
  exact ⟨named, other, outputs_fit_together.2.1 _ named, apart,
    outputs_fit_together.2.2 _ _ named other apart⟩

end Standard

end TraceAutomata
