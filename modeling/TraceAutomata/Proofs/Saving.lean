import TraceAutomata.Proofs.Dump.Rendering
import TraceAutomata.Proofs.FileSystem
import TraceAutomata.Runtime.Standard

/-!
# What saving a document leaves behind

Saving renders first and opens the file afterwards, so a network with problems costs no file its content.
Exactly one of five things comes of it: the network is refused (`Refused`), the path is none (`Unfit`), the file
cannot be opened and that is reported (`GivenUp`), the document has no encoding and its file is left empty
(`Emptied`), or the document is in its file and nothing else has changed (`Delivered`). Saving again at the path that
was answered leaves everything as it is.

`saving_ends` says so for every network, and for every dump in which names, comments and expressions are texts. A
document with a surrogate in it is all that damages a file (`surrogate_empties_document`).
-/

namespace TraceAutomata

/-! ## Paths of documents -/

/-- The path that a document is written to: the one that was asked for, with its extension appended unless
it is there. -/
def documentPath (path : String) : String :=
  if Path.documentExtension <:+ path.toList then path else path ++ ".xml"

theorem toList_documentPath (path : String) : (documentPath path).toList = Path.document path.toList := by
  unfold documentPath Path.document Path.ensureSuffix
  by_cases ends : Path.documentExtension <:+ path.toList
  · rw [if_pos ends, if_pos (List.isSuffixOf_iff_suffix.mpr ends)]
  · rw [if_neg ends, if_neg (fun found => ends (List.isSuffixOf_iff_suffix.mp found)), String.toList_append]
    rfl

theorem ofList_document (path : String) : String.ofList (Path.document path.toList) = documentPath path := by
  rw [← toList_documentPath, String.ofList_toList]

/-- Saving at the path of a document keeps the path. -/
theorem documentPath_documentPath (path : String) : documentPath (documentPath path) = documentPath path := by
  rw [← String.toList_inj, toList_documentPath, toList_documentPath, Path.document_document]

section General

variable [Runtime]

/-! ## Errors in the log -/

/-- The records of errors among those that events leave. -/
def LogRecord.errorsOf (events : List Event) : List LogRecord :=
  (ofEvents events).filter fun record => record.level == .error

theorem LogRecord.errorsOf_append (front back : List Event) :
    errorsOf (front ++ back) = errorsOf front ++ errorsOf back := by
  simp [errorsOf, ofEvents]

/-- Events that only report edges with dropped updates leave no error. -/
theorem LogRecord.errorsOf_eq_nil {events : List Event}
    (dropped : ∀ event ∈ events, ∃ source target template count,
      event = .updatesDropped source target template count) : errorsOf events = [] := by
  induction events with
  | nil => rfl
  | cons event rest inductionHypothesis =>
    obtain ⟨⟨source, target, template, count, rfl⟩, others⟩ := List.forall_mem_cons.mp dropped
    have later := inductionHypothesis others
    rw [← List.singleton_append, errorsOf_append, later]
    rfl

/-- What is reported of the edges of a network is that updates are dropped. -/
theorem Xml.errorsOf_networkDroppedUpdates (network : Network) :
    LogRecord.errorsOf (networkDroppedUpdates network) = [] := by
  apply LogRecord.errorsOf_eq_nil
  intro event reported
  obtain ⟨template, -, ofTemplate⟩ := List.mem_flatMap.mp reported
  obtain ⟨edge, -, ofEdge⟩ := List.mem_flatMap.mp ofTemplate
  unfold droppedUpdates at ofEdge
  split at ofEdge
  · split at ofEdge
    · exact ⟨_, _, _, _, List.mem_singleton.mp ofEdge⟩
    · cases ofEdge
  · cases ofEdge

/-! ## Five ends -/

section Ends

variable {Content Refusal : Type} (problems : List (Problem Content))
  (written : Content → Except ValueFault String) (validated : Except ValueFault (List String))
  (rendered : Journaled Refusal String) (refusal : RenderError Content → Refusal) (path : String)
  (files : FileSystem) (saved : Saved Refusal)

/-- There are problems: nothing is reported, every file stays as it is, and the error lists what validation does. If
a number is too long to be listed, the fault of validation is raised in its place. -/
structure Refused : Prop where
  incomplete : validated ≠ .ok []
  raised : saved.outcome = .error (.render (refusal (.incomplete problems)))
  worded : (RenderError.incomplete problems).wording written =
    validated.map fun texts => "Cannot serialize model: " ++ "; ".intercalate texts
  overlong : ∀ fault, validated = .error fault → fault = .tooLongToWrite
  quiet : saved.events = []
  untouched : saved.files = files

/-- The path is none: its fault is raised, and every file stays as it is. -/
structure Unfit : Prop where
  complete : validated = .ok []
  raised : ∃ fault, FileSystem.pathFault? (documentPath path).toList = some fault ∧
    saved.outcome = .error (.value fault)
  quiet : LogRecord.errorsOf saved.events = []
  untouched : saved.files = files

/-- The file cannot be opened: one error with the fault is reported, no path is answered, and every file
stays as it is. -/
structure GivenUp : Prop where
  complete : validated = .ok []
  answered : saved.outcome = .ok none
  reported : ∃ fault, files.placeToWrite (documentPath path).toList = .error (.refused fault) ∧
    LogRecord.errorsOf saved.events = [⟨.error, "trace2nta.backends.uppaal_xml",
      "An error has occurred while creating the XML file " ++ documentPath path ++ ": " ++ fault.message⟩]
  untouched : saved.files = files

/-- The document has no encoding: the fault is raised, no error is reported, and of the file that was opened nothing is
left. All other places are as they were. -/
structure Emptied : Prop where
  complete : validated = .ok []
  raised : ∃ document fault place, rendered.outcome = .ok document ∧ Text.encode document = .error fault ∧
    files.placeToWrite (documentPath path).toList = .ok place ∧
    saved.outcome = .error (.value (.notEncodable fault)) ∧
    saved.files.entryAt? place = some (.file []) ∧
    ∀ other, other ≠ place → saved.files.entryAt? other = files.entryAt? other
  quiet : LogRecord.errorsOf saved.events = []
  stays : saved.files.workingDirectory = files.workingDirectory

/-- The document is in its file: its path is answered, no error is reported, all other places are as they
were, and saving again at the path that was answered comes to the same. -/
structure Delivered : Prop where
  complete : validated = .ok []
  answered : saved.outcome = .ok (some (documentPath path))
  quiet : LogRecord.errorsOf saved.events = []
  stored : ∃ document bytes place, rendered.outcome = .ok document ∧ Text.encode document = .ok bytes ∧
    files.placeToWrite (documentPath path).toList = .ok place ∧
    saved.files.entryAt? place = some (.file bytes) ∧
    saved.files.readFile (documentPath path).toList = .ok bytes ∧
    ∀ other, other ≠ place → saved.files.entryAt? other = files.entryAt? other
  stays : saved.files.workingDirectory = files.workingDirectory
  again : saveRendered rendered (documentPath path) saved.files = saved

/-- The ends of saving. -/
def savingEnds : List Prop :=
  [Refused problems written validated refusal files saved, Unfit validated path files saved,
    GivenUp validated path files saved, Emptied validated rendered path files saved,
    Delivered validated rendered path files saved]

/-- Exactly one of some statements holds. -/
def ExactlyOne (statements : List Prop) : Prop :=
  (∃ statement ∈ statements, statement) ∧ statements.Pairwise fun first second => ¬(first ∧ second)

theorem exists_savingEnds_iff :
    (∃ ended ∈ savingEnds problems written validated rendered refusal path files saved, ended) ↔
      Refused problems written validated refusal files saved ∨ Unfit validated path files saved ∨
        GivenUp validated path files saved ∨ Emptied validated rendered path files saved ∨
          Delivered validated rendered path files saved := by
  simp only [savingEnds, List.exists_mem_cons_iff, List.not_mem_nil, false_and, exists_false, or_false]

/-- No two ends come of one saving. -/
theorem pairwise_savingEnds :
    (savingEnds problems written validated rendered refusal path files saved).Pairwise
      fun first second => ¬(first ∧ second) := by
  have opened {place : Place} (opening : files.placeToWrite (documentPath path).toList = .ok place) :
      FileSystem.pathFault? (documentPath path).toList = none :=
    (FileSystem.placeToWrite_eq_ok_iff.mp opening).1
  simp only [savingEnds, List.pairwise_cons, List.forall_mem_cons, List.not_mem_nil, false_implies, implies_true,
    List.Pairwise.nil, and_true]
  refine ⟨⟨?_, ?_, ?_, ?_⟩, ⟨?_, ?_, ?_⟩, ⟨?_, ?_⟩, ?_⟩
  · exact fun ⟨refused, unfit⟩ => refused.incomplete unfit.complete
  · exact fun ⟨refused, givenUp⟩ => refused.incomplete givenUp.complete
  · exact fun ⟨refused, emptied⟩ => refused.incomplete emptied.complete
  · exact fun ⟨refused, delivered⟩ => refused.incomplete delivered.complete
  · rintro ⟨unfit, givenUp⟩
    obtain ⟨fault, -, raised⟩ := unfit.raised
    cases raised.symm.trans givenUp.answered
  · rintro ⟨unfit, emptied⟩
    obtain ⟨fault, none, -⟩ := unfit.raised
    obtain ⟨_, _, _, _, _, opening, _⟩ := emptied.raised
    cases none.symm.trans (opened opening)
  · rintro ⟨unfit, delivered⟩
    obtain ⟨fault, -, raised⟩ := unfit.raised
    cases raised.symm.trans delivered.answered
  · rintro ⟨givenUp, emptied⟩
    obtain ⟨_, _, _, _, _, _, raised, _⟩ := emptied.raised
    cases raised.symm.trans givenUp.answered
  · rintro ⟨givenUp, delivered⟩
    cases givenUp.answered.symm.trans delivered.answered
  · rintro ⟨emptied, delivered⟩
    obtain ⟨_, _, _, _, _, _, raised, _⟩ := emptied.raised
    cases raised.symm.trans delivered.answered

end Ends

/-! ## Saving what was rendered -/

section Saving

variable {Refusal : Type} {validated : Except ValueFault (List String)} {rendered : Journaled Refusal String}
  {path document : String} {files : FileSystem} {place : Place} {bytes : List UInt8}

/-- Saving what could not be rendered. -/
theorem saveRendered_of_error {error : Refusal} (failed : rendered.outcome = .error error) :
    saveRendered rendered path files = ⟨files, rendered.events, .error (.render error)⟩ := by
  rw [saveRendered, failed]

/-- Saving a document at what is no path. -/
theorem saveRendered_of_unfit {fault : ValueFault} (made : rendered.outcome = .ok document)
    (unfit : files.placeToWrite (documentPath path).toList = .error (.value fault)) :
    saveRendered rendered path files = ⟨files, rendered.events, .error (.value fault)⟩ := by
  rw [saveRendered, made]
  simp only [ofList_document, unfit]

/-- Saving a document whose file cannot be opened. -/
theorem saveRendered_of_refused {fault : FileFault} (made : rendered.outcome = .ok document)
    (refused : files.placeToWrite (documentPath path).toList = .error (.refused fault)) :
    saveRendered rendered path files =
      ⟨files, rendered.events ++ [.documentNotWritten (documentPath path) fault.message], .ok none⟩ := by
  rw [saveRendered, made]
  simp only [ofList_document, refused]

/-- Saving a document that has no encoding. -/
theorem saveRendered_of_unencodable {fault : Text.EncodeFault} (made : rendered.outcome = .ok document)
    (opened : files.placeToWrite (documentPath path).toList = .ok place)
    (unencodable : Text.encode document = .error fault) :
    saveRendered rendered path files =
      ⟨files.put place (.file []), rendered.events, .error (.value (.notEncodable fault))⟩ := by
  rw [saveRendered, made]
  simp only [ofList_document, opened, unencodable]

/-- Saving a document whose file can be opened. -/
theorem saveRendered_of_opened (made : rendered.outcome = .ok document)
    (opened : files.placeToWrite (documentPath path).toList = .ok place)
    (encoded : Text.encode document = .ok bytes) :
    saveRendered rendered path files =
      ⟨files.put place (.file bytes), rendered.events ++ [.documentWritten (documentPath path)],
        .ok (some (documentPath path))⟩ := by
  rw [saveRendered, made]
  simp only [ofList_document, opened, encoded]

/-- A document without an encoding leaves its file empty. -/
theorem emptied_of_unencodable (complete : validated = .ok []) (quiet : LogRecord.errorsOf rendered.events = [])
    {fault : Text.EncodeFault} (made : rendered.outcome = .ok document)
    (opened : files.placeToWrite (documentPath path).toList = .ok place)
    (unencodable : Text.encode document = .error fault) :
    Emptied validated rendered path files (saveRendered rendered path files) := by
  have below := FileSystem.ne_root_of_entryAt? (FileSystem.placeToWrite_eq_ok_iff.mp opened).2.2
  rw [saveRendered_of_unencodable made opened unencodable]
  refine ⟨complete, ⟨document, fault, place, made, unencodable, opened, rfl, ?_, ?_⟩, quiet, rfl⟩
  · exact FileSystem.entryAt?_put_self below
  · intro other differs
    exact FileSystem.entryAt?_put_of_ne differs

/-- A document whose file can be opened is delivered. -/
theorem delivered_of_opened (complete : validated = .ok []) (quiet : LogRecord.errorsOf rendered.events = [])
    (made : rendered.outcome = .ok document)
    (opened : files.placeToWrite (documentPath path).toList = .ok place)
    (encoded : Text.encode document = .ok bytes) :
    Delivered validated rendered path files (saveRendered rendered path files) := by
  have free := (FileSystem.placeToWrite_eq_ok_iff.mp opened).2.2
  have below := FileSystem.ne_root_of_entryAt? free
  have openedAgain : (files.put place (.file bytes)).placeToWrite (documentPath (documentPath path)).toList =
      .ok place := by
    rw [documentPath_documentPath]
    exact FileSystem.placeToWrite_put free opened
  rw [saveRendered_of_opened made opened encoded]
  refine ⟨complete, rfl, ?_, ⟨document, bytes, place, made, encoded, opened, ?_, ?_, ?_⟩, rfl, ?_⟩
  · rw [LogRecord.errorsOf_append, quiet]
    rfl
  · exact FileSystem.entryAt?_put_self below
  · refine FileSystem.readFile_of_content? ?_ (FileSystem.content?_put_self below)
    exact FileSystem.placeToWrite_put free opened
  · intro other differs
    exact FileSystem.entryAt?_put_of_ne differs
  · -- The place is the one that was written to, and it holds the document already.
    rw [saveRendered_of_opened made openedAgain encoded, FileSystem.put_put, documentPath_documentPath]

variable {Content α : Type} {problems : List (Problem Content)} {written : Content → Except ValueFault String}
  {refusal : RenderError Content → Refusal} {broken : Nat} {lines : List (Journaled Refusal α)}
  {blocks : List (Journaled Refusal String)}

/-- Where the problems decide what is rendered, and rendering reports no errors, saving comes to exactly one
of the ends. -/
theorem exactlyOne_saveRendered (path : String) (files : FileSystem)
    (decided : ProblemsDecide problems written validated broken lines blocks rendered refusal)
    (quiet : LogRecord.errorsOf rendered.events = []) :
    ExactlyOne (savingEnds problems written validated rendered refusal path files
      (saveRendered rendered path files)) := by
  refine ⟨(exists_savingEnds_iff ..).mpr ?_, pairwise_savingEnds ..⟩
  by_cases complete : validated = .ok []
  · right
    obtain ⟨document, made⟩ := decided.document.mp complete
    cases opening : files.placeToWrite (documentPath path).toList with
    | error fault =>
      cases fault with
      | value fault =>
        left
        rw [saveRendered_of_unfit made opening]
        exact ⟨complete, ⟨fault, FileSystem.pathFault?_of_placeToWrite opening, rfl⟩, quiet, rfl⟩
      | refused fault =>
        refine .inr (.inl ?_)
        rw [saveRendered_of_refused made opening]
        refine ⟨complete, rfl, ⟨fault, opening, ?_⟩, rfl⟩
        rw [LogRecord.errorsOf_append, quiet]
        rfl
    | ok place =>
      cases encoding : Text.encode document with
      | error fault => exact .inr (.inr (.inl (emptied_of_unencodable complete quiet made opening encoding)))
      | ok bytes => exact .inr (.inr (.inr (delivered_of_opened complete quiet made opening encoding)))
  · left
    have failed := decided.refused complete
    subst failed
    rw [saveRendered_of_error rfl]
    exact ⟨complete, rfl, decided.worded, decided.listed.fault, rfl, rfl⟩

end Saving

/-! ## Saving networks and dumps -/

/-- Rendering a network reports no errors. -/
theorem Xml.errorsOf_render (network : Network) : LogRecord.errorsOf (render network).events = [] := by
  by_cases complete : network.problems = []
  · obtain ⟨view, seen⟩ := problems_eq_nil_iff.mp complete
    rw [render_of_view seen]
    exact errorsOf_networkDroppedUpdates network
  · rw [render_of_problems complete]
    rfl

/-- Rendering a dump of texts reports no errors. -/
theorem Dump.errorsOf_render {dump : Dump} (textual : dump.Textual) :
    LogRecord.errorsOf dump.render.events = [] := by
  by_cases complete : dump.problems = []
  · obtain ⟨passed, fit⟩ := inspectDocument_succeeds textual complete
    rw [render, inspected, fit]
    exact Xml.errorsOf_render dump.shown
  · rw [render_of_problems complete]
    rfl

/-- For every network, and for every dump in which names, comments and expressions are texts, with any files
and any path: saving refuses a network with problems, fails at what is no path, gives up when the file cannot be
opened, empties it when the document has no encoding, or delivers the document. -/
theorem saving_ends (path : String) (files : FileSystem) :
    (∀ network : Network,
      ExactlyOne (savingEnds network.problems .ok network.validate (Xml.render network) id path files
        (saveDocument network path files))) ∧
      ∀ dump : Dump, dump.Textual →
        ExactlyOne (savingEnds dump.problems Value.plainText dump.validate dump.render .network path files
          (saveDumpDocument dump path files)) := by
  constructor
  · intro network
    exact exactlyOne_saveRendered path files (problemsDecide_network network) (Xml.errorsOf_render network)
  · intro dump textual
    exact exactlyOne_saveRendered path files (Dump.problemsDecide textual) (Dump.errorsOf_render textual)

end General

section Runs

open scoped TraceAutomata.Runtime

/-- A dump with a broken reference costs the document that stands at its path nothing. -/
theorem broken_dump_keeps_document :
    let dump : Dump :=
      { name := .null
        locationCount := .null
        templates := .single { id := 0, name := .text "Lamp", initial := some 4 } }
    let files : FileSystem := ⟨[([['l', '.', 'x', 'm', 'l']], .file [60, 62])], []⟩
    dump.Textual ∧
      Refused dump.problems Value.plainText dump.validate .network files (saveDumpDocument dump "l" files) ∧
      (saveDumpDocument dump "l" files).files.readFile "l.xml".toList = .ok [60, 62] := by
  intro dump files
  have textual : dump.Textual := by
    refine ⟨nofun, nofun, fun template present => ?_⟩
    obtain rfl := List.mem_singleton.mp present
    exact ⟨⟨"Lamp", rfl⟩, nofun, nofun, nofun⟩
  have incomplete : dump.validate ≠ .ok [] := by decide +kernel
  have ended := (exists_savingEnds_iff ..).mp ((saving_ends "l" files).2 dump textual).1
  obtain refused | unfit | givenUp | emptied | delivered := ended
  · refine ⟨textual, refused, ?_⟩
    rw [refused.untouched]
    decide +kernel
  · exact absurd unfit.complete incomplete
  · exact absurd givenUp.complete incomplete
  · exact absurd emptied.complete incomplete
  · exact absurd delivered.complete incomplete

/-- A declaration with half of a surrogate pair in it costs the document that stands at the path its content: the file
is opened, the fault is raised and not reported, and nothing is in the file. -/
theorem surrogate_empties_document :
    let network : Network :=
      { Network.named "lamp" with globalDeclarations := [⟨String.singleton (Runtime.character 0xD800)⟩] }
    let files : FileSystem := ⟨[([['l', '.', 'x', 'm', 'l']], .file [60, 62])], []⟩
    let saved := saveDocument network "l" files
    network.validate = .ok [] ∧ files.readFile "l.xml".toList = .ok [60, 62] ∧
      (∃ fault, saved.outcome = .error (.value (.notEncodable fault))) ∧ saved.events = [] ∧
      saved.files.readFile "l.xml".toList = .ok [] := by
  intro network files saved
  have computed : network.validate = .ok [] ∧ files.readFile "l.xml".toList = .ok [60, 62] ∧
      saved.outcome = .error (.value (.notEncodable ⟨⟨0xD800, by decide, by decide⟩, 186, 1⟩)) ∧
      saved.events = [] ∧ saved.files.readFile "l.xml".toList = .ok [] := by
    decide +kernel
  exact ⟨computed.1, computed.2.1, ⟨_, computed.2.2.1⟩, computed.2.2.2⟩

end Runs

end TraceAutomata
