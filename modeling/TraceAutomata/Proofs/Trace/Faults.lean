import TraceAutomata.Proofs.FileSystem
import TraceAutomata.Proofs.Trace.Row

/-!
# Faults of reading traces

A value that was read from a text fails to be a trace in one of two ways: the document is refused, or something in
it cannot be shown where its text is needed (`Expected`). The lemmas follow the reader from its keywords to the whole
document. A printable value is only ever refused (`refused_of_printable`).
-/

namespace TraceAutomata.Trace

open Journaled

variable {value : Value} {entries : List (Value × Value)}

/-! ## What stands within a document -/

/-- What is found under the keys of some entries stands within a value. -/
def FoundWithin (entries : List (Value × Value)) (whole : Value) : Prop :=
  ∀ key found, Value.lookup key entries = some found → Value.Within found whole

/-- What is found in a value that is a mapping stands within it. -/
theorem foundWithin_of_content {whole : Value} (mapping : value.content = .mapping entries)
    (inside : Value.Within value whole) : FoundWithin entries whole := by
  intro key found listed
  have here : Value.Within found value.content := mapping ▸ Value.within_of_lookup listed
  exact (here.trans (Value.within_content value)).trans inside

/-- The entries that a document is read as: its own, or a single one for a document that is a list of rows. -/
inductive Opens (document : Value) : List (Value × Value) → Prop
  | list {items : List Value} (content : document.content = .list items) :
      Opens document [(.text "statements", document)]
  | mapping {entries : List (Value × Value)} (content : document.content = .mapping entries) :
      Opens document entries

theorem Opens.foundWithin (opens : Opens value entries) : FoundWithin entries value := by
  cases opens with
  | list content =>
    intro key found listed
    rw [Value.lookup] at listed
    split at listed
    · obtain rfl := Option.some.inj listed
      exact .self
    · cases listed
  | mapping content => exact foundWithin_of_content content .self

/-- The rows of a document stand within it. -/
theorem Opens.within_of_documentRows (opens : Opens value entries) {rows : List Value}
    (read : (documentRows entries).outcome = .ok rows) : ∀ row ∈ rows, Value.Within row value := by
  intro row among
  unfold documentRows at read
  cases found : Value.lookup "statements" entries with
  | none =>
    rw [found] at read
    cases read
    cases among
  | some listed =>
    rw [found] at read
    dsimp only [Option.map_some] at read
    split at read
    · rename_i items content
      cases read
      have here := Value.within_of_mem_content (Option.some.inj content) among
      exact here.trans (opens.foundWithin _ listed found)
    · split at read
      · cases read
      · cases read
        cases among
    · contradiction

section Faults

variable [Runtime] {α : Type} {whole : Value} {number : Nat}

/-- The faults of reading a value: errors of the document, and what keeps something within the value from being
shown. -/
def Expected (whole : Value) (fault : TraceFault) : Prop :=
  (∃ error, fault = .refused error) ∨ ∃ reason, fault = .value reason ∧ whole.Unshowable reason

theorem errorsIn_refuse (error : TraceError) : (refuse error : Reading α).ErrorsIn (Expected whole) :=
  errorsIn_fail (.inl ⟨error, rfl⟩)

section Parts

variable (inside : Value.Within value whole)
include inside

/-- Writing a value fails when something in it cannot be shown. -/
theorem errorsIn_fromValue {written : Except ValueFault String}
    (own : written = value.plainText ∨ written = value.shownText) :
    (fromValue written).ErrorsIn (Expected whole) := by
  intro fault failed
  right
  cases ended : written with
  | ok text =>
    rw [ended] at failed
    cases failed
  | error reason =>
    rw [ended] at failed own
    cases failed
    exact ⟨reason, rfl, value, inside, Value.showingFault?_of_error (own.imp Eq.symm Eq.symm)⟩

theorem errorsIn_readKeyword (keywords : List (String × α)) (refusal : String → TraceError) :
    (readKeyword keywords refusal value).ErrorsIn (Expected whole) := by
  apply (errorsIn_fromValue inside (.inl rfl)).bind
  intro word _
  split
  · exact errorsIn_pure _
  · apply (errorsIn_fromValue inside (.inr rfl)).bind
    intro shown _
    exact errorsIn_refuse (refusal shown)

theorem errorsIn_expressionText : (expressionText value).ErrorsIn (Expected whole) := by
  unfold expressionText
  split
  · exact errorsIn_pure _
  · apply (errorsIn_fromValue inside (.inl rfl)).bind
    intro text _
    exact errorsIn_pure _

end Parts

theorem errorsIn_readExpressions {values : List Value} (inside : ∀ value ∈ values, Value.Within value whole) :
    (readExpressions number values).ErrorsIn (Expected whole) := by
  induction values with
  | nil => exact errorsIn_pure _
  | cons value rest inductionHypothesis =>
    obtain ⟨own, others⟩ := List.forall_mem_cons.mp inside
    apply (errorsIn_expressionText own).bind
    intro text _
    split
    · refine ErrorsIn.bind (errorsIn_report _) ?_
      intro _ _
      exact inductionHypothesis others
    · apply (inductionHypothesis others).bind
      intro texts _
      exact errorsIn_pure _

theorem errorsIn_rowExpressions : (rowExpressions number entries).ErrorsIn (Expected whole) := by
  unfold rowExpressions
  split
  · exact errorsIn_pure _
  · exact errorsIn_refuse _
  · split
    · exact errorsIn_pure _
    · exact errorsIn_refuse _

theorem errorsIn_documentRows : (documentRows entries).ErrorsIn (Expected whole) := by
  unfold documentRows
  split
  · exact errorsIn_pure _
  · split
    · exact errorsIn_refuse _
    · exact errorsIn_pure _
  · exact errorsIn_pure _

section Entries

variable (inside : FoundWithin entries whole)
include inside

/-- The scope that stands in for one that is not given is always read. -/
theorem errorsIn_readScope :
    (readKeyword DeclarationScope.keywords (.unknownScope number) ((Value.lookup "scope" entries).getD
      (.text DeclarationScope.localScope.keyword))).ErrorsIn (Expected whole) := by
  cases found : Value.lookup "scope" entries with
  | none =>
    have localGiven : GivesScope [] DeclarationScope.localScope := rfl
    have read := readKeyword_of_lookup (Value.printable_text _) (.unknownScope number) (givesScope_iff.mp localGiven)
    rw [Option.getD_none]
    exact read ▸ errorsIn_pure _
  | some given => exact errorsIn_readKeyword (inside _ given found) _ _

theorem errorsIn_readComment : (readComment entries).ErrorsIn (Expected whole) := by
  unfold readComment
  split
  · exact errorsIn_pure _
  · exact errorsIn_pure _
  · rename_i comment _ found
    apply (errorsIn_fromValue (inside _ comment found) (.inl rfl)).bind
    intro text _
    exact errorsIn_pure _

theorem errorsIn_readName (given : Option String) : (readName given entries).ErrorsIn (Expected whole) := by
  unfold readName
  dsimp only
  split
  · rename_i present
    cases found : Value.lookup "name" entries with
    | none =>
      rw [found] at present
      cases present
    | some named => exact errorsIn_fromValue (inside _ named found) (.inl rfl)
  · split
    · exact errorsIn_pure _
    · exact errorsIn_pure _

end Entries

/-- A row is refused, or something in it cannot be shown. -/
theorem errorsIn_readRow (inside : Value.Within value whole) :
    (readRow number value).ErrorsIn (Expected whole) := by
  unfold readRow
  split
  · rename_i entries mapping
    have within := foundWithin_of_content mapping inside
    split
    · exact errorsIn_refuse _
    · rename_i kind found
      apply (errorsIn_readKeyword (within _ kind found) _ _).bind
      intro kind _
      apply (errorsIn_readScope within).bind
      intro scope _
      apply errorsIn_rowExpressions.bind
      intro values read
      have ofValues : ∀ value ∈ values, Value.Within value whole := by
        intro value among
        obtain ⟨key, listed, found, here⟩ := within_of_givesValues (gives_of_rowExpressions read) value among
        exact here.trans (within key listed found)
      apply (errorsIn_readExpressions ofValues).bind
      intro expressions _
      split
      · exact errorsIn_pure _
      · apply (errorsIn_readComment within).bind
        intro comment _
        exact errorsIn_pure _
  · exact errorsIn_refuse _

theorem errorsIn_readRows {values : List Value} (inside : ∀ value ∈ values, Value.Within value whole) :
    (readRows number values).ErrorsIn (Expected whole) := by
  induction values generalizing number with
  | nil => exact errorsIn_pure _
  | cons value rest inductionHypothesis =>
    obtain ⟨own, others⟩ := List.forall_mem_cons.mp inside
    apply (errorsIn_readRow own).bind
    intro statement _
    apply (inductionHypothesis others).bind
    intro statements _
    exact errorsIn_pure _

end Faults

/-! ## Documents -/

variable [Runtime]

/-- The trace that the entries of a document describe. -/
def readEntries (given : Option String) (entries : List (Value × Value)) : Reading Trace := do
  let rows ← documentRows entries
  let statements ← readRows 1 rows
  let name ← readName given entries
  return { name, statements }

theorem ofValue_of_opens (given : Option String) (opens : Opens value entries) :
    ofValue given value = readEntries given entries := by
  cases opens with
  | list content =>
    rw [ofValue, content]
    rfl
  | mapping content =>
    rw [ofValue, content]
    rfl

/-- A document that is neither a list nor a mapping is refused. -/
theorem opens_or_refused (given : Option String) (value : Value) :
    (∃ entries, Opens value entries) ∨ ofValue given value = refuse .notAMapping := by
  cases content : value.content with
  | list items => exact .inl ⟨_, .list content⟩
  | mapping entries => exact .inl ⟨_, .mapping content⟩
  | _ =>
    right
    rw [ofValue, content]
    rfl

/-- A value is read as a trace, is refused, or holds something that cannot be shown. -/
theorem errorsIn_ofValue (given : Option String) (value : Value) :
    (ofValue given value).ErrorsIn (Expected value) := by
  obtain ⟨entries, opens⟩ | refused := opens_or_refused given value
  · rw [ofValue_of_opens given opens]
    apply errorsIn_documentRows.bind
    intro rows read
    apply (errorsIn_readRows (opens.within_of_documentRows read)).bind
    intro statements _
    apply (errorsIn_readName opens.foundWithin given).bind
    intro name _
    exact errorsIn_pure _
  · rw [refused]
    exact errorsIn_refuse _

/-- A printable value that does not describe a trace is refused. -/
theorem refused_of_printable {given : Option String} {fault : TraceFault} (printable : value.Printable)
    (failed : (ofValue given value).outcome = .error fault) : ∃ error, fault = .refused error := by
  obtain refused | ⟨reason, -, unshowable⟩ := errorsIn_ofValue given value fault failed
  · exact refused
  · exact absurd unshowable printable.not_unshowable

/-! ## Texts and files -/

/-- A text with a fault of its values: it writes a scalar that names no value, or a document in which something cannot
be shown. -/
def FaultyText (text : String) (fault : ValueFault) : Prop :=
  Yaml.read text = .error (.value fault) ∨
    ∃ document, Yaml.read text = .ok document ∧ document.Unshowable fault

/-- A reading ends with a trace or an error of the document. -/
def EndsWell (reading : Reading Trace) : Prop :=
  (∃ trace, reading.outcome = .ok trace) ∨ ∃ error, reading.outcome = .error (.refused error)

variable {given : Option String} {text : String} {fault : ValueFault}

/-- A text is read as a trace or refused, unless it has a fault of its values. -/
theorem endsWell_or_faulty (given : Option String) (text : String) :
    EndsWell (ofText given text) ∨
      ∃ fault, (ofText given text).outcome = .error (.value fault) ∧ FaultyText text fault := by
  cases ended : (ofText given text).outcome with
  | ok trace => exact .inl (.inl ⟨trace, ended⟩)
  | error failure =>
    cases failure with
    | refused error => exact .inl (.inr ⟨error, ended⟩)
    | value fault =>
      refine .inr ⟨fault, rfl, ?_⟩
      unfold ofText at ended
      cases written : Yaml.read text with
      | error reason =>
        rw [written] at ended
        cases reason with
        | value own =>
          cases ended
          exact .inl written
        | _ => cases ended
      | ok document =>
        rw [written] at ended
        obtain ⟨error, refused⟩ | ⟨reason, same, unshowable⟩ := errorsIn_ofValue given document _ ended
        · contradiction
        · cases same
          exact .inr ⟨document, written, unshowable⟩

theorem faultyText_of_ofText (failed : (ofText given text).outcome = .error (.value fault)) :
    FaultyText text fault := by
  obtain (⟨trace, read⟩ | ⟨error, refused⟩) | ⟨other, same, faulty⟩ := endsWell_or_faulty given text
  · rw [failed] at read
    cases read
  · rw [failed] at refused
    cases refused
  · rw [failed] at same
    cases same
    exact faulty

section Files

variable {files : FileSystem} {path : String}

/-- A file that is opened is read as its text. -/
theorem outcome_ofFile (opened : readFile files path = .ok text) :
    (ofFile files path given).outcome =
      (ofText (some (given.getD (String.ofList (Path.stem path.toList)))) text).outcome := by
  rw [ofFile, opened]
  rfl

/-- A file is not read because its path is none, or its text has a fault. -/
theorem faults_of_ofFile (failed : (ofFile files path given).outcome = .error (.value fault)) :
    FileSystem.pathFault? path.toList = some fault ∨
      ∃ text, readFile files path = .ok text ∧ FaultyText text fault := by
  cases opened : readFile files path with
  | ok text =>
    rw [outcome_ofFile opened] at failed
    exact .inr ⟨text, rfl, faultyText_of_ofText failed⟩
  | error reason =>
    have same : (ofFile files path given).outcome = .error reason := by
      rw [ofFile, opened]
      rfl
    rw [same] at failed
    cases failed
    unfold readFile at opened
    split at opened
    · rename_i refused
      cases opened
      exact .inl (FileSystem.pathFault?_of_readFile refused)
    · cases opened
    · cases opened
    · rename_i bytes _
      cases decoded : Text.decodeLines bytes <;> rw [decoded] at opened <;> cases opened

end Files

end TraceAutomata.Trace
