import TraceAutomata.Proofs.Trace.Faults
import TraceAutomata.Runtime.Standard

/-!
# Documents of traces

A document holds rows when it is a list of values that write them, or a mapping that has such a list (`Holds`).
Exactly these documents are read as traces; the rows decide the statements and the warnings, in their order and
with their numbers among all rows (`Faithful`, `faithful_ofText`).
-/

namespace TraceAutomata.Trace

open Journaled

/-! ## The rows of a document -/

section Rows

variable {entries : List (Value × Value)} {values : List Value}

/-- Entries list values as rows under their key. No entry lists no rows, and neither does one that does not count
as present. -/
def ListsRows (entries : List (Value × Value)) (values : List Value) : Prop :=
  match Value.lookup "statements" entries with
  | some listed => listed.content = .list values ∨ (listed.isTruthy = false ∧ values = [])
  | none => values = []

/-- Whether a value counts as present does not depend on its label. -/
theorem isTruthy_content (value : Value) : value.content.isTruthy = value.isTruthy := by
  cases value with
  | shared label value => exact isTruthy_content value
  | _ => rfl

theorem documentRows_of_lists (listed : ListsRows entries values) : documentRows entries = pure values := by
  unfold ListsRows at listed
  unfold documentRows
  cases found : Value.lookup "statements" entries with
  | none =>
    rw [found] at listed
    cases listed
    rfl
  | some value =>
    rw [found] at listed
    dsimp only [Option.map_some]
    rcases listed with content | ⟨absent, rfl⟩
    · rw [content]
    · rw [← isTruthy_content] at absent
      split
      · rename_i items content
        rw [Option.some.inj content] at absent
        cases items with
        | nil => rfl
        | cons item rest => contradiction
      · rename_i other _ content
        rw [← Option.some.inj content, absent]
        rfl
      · contradiction

theorem lists_of_documentRows (read : (documentRows entries).outcome = .ok values) :
    ListsRows entries values := by
  unfold documentRows at read
  unfold ListsRows
  cases found : Value.lookup "statements" entries with
  | none =>
    rw [found] at read
    cases read
    rfl
  | some value =>
    rw [found] at read
    dsimp only [Option.map_some] at read ⊢
    split at read
    · rename_i items content
      cases read
      exact .inl (Option.some.inj content)
    · rename_i other _ content
      rw [← Option.some.inj content, isTruthy_content] at read
      cases present : value.isTruthy with
      | true =>
        rw [present] at read
        cases read
      | false =>
        rw [present] at read
        cases read
        exact .inr ⟨rfl, rfl⟩
    · contradiction

end Rows

/-! ## What a document says -/

section Reading

variable [Runtime]

/-- A document is a list of values that write rows, or a mapping that lists such values. -/
def Holds (document : Value) (rows : List Row) : Prop :=
  ∃ values, List.Forall₂ Writes values rows ∧ (document.content = .list values ∨
    ∃ entries, document.content = .mapping entries ∧ ListsRows entries values)

/-- The statements of the rows that have an expression. -/
def statementsOf (rows : List Row) : List Statement :=
  rows.filterMap Row.statement?

/-- The warnings of rows; the first of them has a number. -/
def warningsOf (first : Nat) (rows : List Row) : List Event :=
  (rows.zipIdx first).flatMap fun (row, number) => row.warnings number

/-- The name in a document, if it counts as present. -/
def ownName? (document : Value) : Option String :=
  match document.content with
  | .mapping entries => ((Value.lookup "name" entries).filter Value.isTruthy).map Value.plain
  | _ => none

/-- The name of a trace: its own, or a given one that is not empty, or the one for all others. -/
def nameOf (given : Option String) (document : Value) : String :=
  ((ownName? document).or (given.filter fun name => !name.isEmpty)).getD defaultName

/-! ## How it is read -/

variable {document : Value} {entries : List (Value × Value)} {values : List Value} {rows : List Row}

/-- The statements of a row and the rest follow each other. -/
theorem statementsOf_cons (row : Row) (rows : List Row) :
    statementsOf (row :: rows) = row.statement?.toList ++ statementsOf rows := by
  rw [statementsOf, List.filterMap_cons]
  cases row.statement? <;> rfl

theorem readRows_of_writes (first : Nat) (written : List.Forall₂ Writes values rows)
    (printable : ∀ value ∈ values, value.Printable) :
    readRows first values = ⟨warningsOf first rows, .ok (statementsOf rows)⟩ := by
  induction written generalizing first with
  | nil => rfl
  | cons written _ inductionHypothesis =>
    obtain ⟨own, others⟩ := List.forall_mem_cons.mp printable
    rw [readRows, readRow_of_writes first own written, ok_bind, inductionHypothesis (first + 1) others, ok_bind,
      statementsOf_cons]
    simp [pure, warningsOf]

theorem writes_of_readRows {first : Nat} (printable : ∀ value ∈ values, value.Printable)
    (read : (readRows first values).Succeeds) : ∃ rows, List.Forall₂ Writes values rows := by
  induction values generalizing first with
  | nil => exact ⟨[], .nil⟩
  | cons value rest inductionHypothesis =>
    obtain ⟨own, others⟩ := List.forall_mem_cons.mp printable
    obtain ⟨statement, rowRead, restRead⟩ := succeeds_bind_iff.mp read
    obtain ⟨row, written⟩ := writes_of_readRow own ⟨statement, rowRead⟩
    obtain ⟨rows, following⟩ := inductionHypothesis others (succeeds_bind_pure_iff.mp restRead)
    exact ⟨row :: rows, .cons written following⟩

/-- A name that does not count as present gives way to a given one. -/
theorem readName_eq (given : Option String)
    (printable : ∀ named, Value.lookup "name" entries = some named → named.Printable) :
    readName given entries = pure (((((Value.lookup "name" entries).filter Value.isTruthy).map Value.plain).or
      (given.filter fun name => !name.isEmpty)).getD defaultName) := by
  have otherwise : readName given [] =
      pure ((given.filter fun name => !name.isEmpty).getD defaultName) := by
    cases given with
    | none => rfl
    | some name =>
      unfold readName
      by_cases empty : name = "" <;> simp [Value.lookup, Value.isTruthy, Option.filter, empty]
  cases found : Value.lookup "name" entries with
  | none =>
    rw [Option.filter_none, Option.map_none, Option.none_or, ← otherwise]
    simp [readName, found, Value.lookup]
  | some named =>
    cases present : named.isTruthy with
    | true =>
      simp [readName, found, present, Option.filter, (printable named found).plainText_eq]
    | false =>
      rw [Option.filter_some_neg (by simp [present]), Option.map_none, Option.none_or, ← otherwise]
      simp [readName, found, present, Value.lookup, Value.isTruthy]

/-! ## Documents -/

/-- A document holds the rows that the entries list which it is read as. -/
theorem holds_iff_of_opens (opens : Opens document entries) :
    Holds document rows ↔ ∃ values, List.Forall₂ Writes values rows ∧ ListsRows entries values := by
  cases opens with
  | list content =>
    have listed (values : List Value) :
        ListsRows [(.text "statements", document)] values ↔ document.content = .list values := by
      have found : Value.lookup "statements" [(.text "statements", document)] = some document := rfl
      rw [ListsRows, found]
      constructor
      · rintro (same | ⟨absent, rfl⟩)
        · exact same
        · rw [← isTruthy_content, content] at absent
          cases items : document.content <;> simp_all [Value.isTruthy]
      · exact .inl
    simp [Holds, listed, content]
  | mapping content => simp [Holds, content]

/-- The name in a document is the one among the entries it is read as. -/
theorem ownName?_of_opens (opens : Opens document entries) :
    ownName? document = ((Value.lookup "name" entries).filter Value.isTruthy).map Value.plain := by
  cases opens with
  | list content =>
    rw [ownName?, content]
    rfl
  | mapping content => rw [ownName?, content]

/-- A document that holds rows is a list or a mapping. -/
theorem opens_of_holds (holds : Holds document rows) : ∃ entries, Opens document entries := by
  obtain ⟨values, -, content | ⟨entries, content, -⟩⟩ := holds
  · exact ⟨_, .list content⟩
  · exact ⟨entries, .mapping content⟩

theorem ofValue_of_holds (given : Option String) (printable : document.Printable)
    (holds : Holds document rows) :
    ofValue given document =
      ⟨warningsOf 1 rows, .ok { name := nameOf given document, statements := statementsOf rows }⟩ := by
  obtain ⟨entries, opens⟩ := opens_of_holds holds
  obtain ⟨values, written, listed⟩ := (holds_iff_of_opens opens).mp holds
  have rowsRead := documentRows_of_lists listed
  have members : ∀ value ∈ values, value.Printable := fun value among =>
    printable.of_within (opens.within_of_documentRows (congrArg Journaled.outcome rowsRead) value among)
  have ofName : ∀ named, Value.lookup "name" entries = some named → named.Printable := fun named found =>
    printable.of_within (opens.foundWithin _ named found)
  rw [ofValue_of_opens given opens, readEntries, rowsRead, pure_then, readRows_of_writes 1 written members,
    ok_bind, readName_eq given ofName, pure_then, nameOf, ownName?_of_opens opens]
  simp [pure]

theorem holds_of_ofValue {given : Option String} (printable : document.Printable)
    (read : (ofValue given document).Succeeds) : ∃ rows, Holds document rows := by
  obtain ⟨entries, opens⟩ | refused := opens_or_refused given document
  · rw [ofValue_of_opens given opens, readEntries] at read
    obtain ⟨values, rowsRead, read⟩ := succeeds_bind_iff.mp read
    obtain ⟨statements, statementsRead, -⟩ := succeeds_bind_iff.mp read
    have members : ∀ value ∈ values, value.Printable := fun value among =>
      printable.of_within (opens.within_of_documentRows rowsRead value among)
    obtain ⟨rows, written⟩ := writes_of_readRows members ⟨statements, statementsRead⟩
    exact ⟨rows, (holds_iff_of_opens opens).mpr ⟨values, written, lists_of_documentRows rowsRead⟩⟩
  · rw [refused] at read
    exact absurd read (not_succeeds_fail _)

/-- A statement that comes from rows has expressions, and none of them is empty. -/
theorem filled_of_mem_statementsOf {statement : Statement} (among : statement ∈ statementsOf rows) :
    statement.expressions ≠ [] ∧ "" ∉ statement.expressions := by
  obtain ⟨row, -, said⟩ := List.mem_filterMap.mp among
  unfold Row.statement? at said
  split at said
  · contradiction
  · rename_i filled
    cases said
    constructor
    · simpa using filled
    · intro blank
      obtain ⟨value, -, stands⟩ := List.mem_filterMap.mp blank
      exact ne_empty_of_expression? stands rfl

end Reading

/-! ## Texts -/

section Texts

variable [Runtime]

/-- A reading accepts exactly the documents that hold rows, and makes of them what the rows say. -/
structure Faithful (given : Option String) (document : Value) (reading : Reading Trace) : Prop where
  accepted : reading.Succeeds ↔ ∃ rows, Holds document rows
  refused : (¬∃ rows, Holds document rows) → ∃ error, reading.outcome = .error (.refused error)
  mapped : ∀ rows, Holds document rows → reading =
    ⟨warningsOf 1 rows, .ok { name := nameOf given document, statements := statementsOf rows }⟩
  filled : ∀ rows, Holds document rows → ∀ statement ∈ statementsOf rows,
    statement.expressions ≠ [] ∧ "" ∉ statement.expressions

/-- Every text that writes a printable value is read faithfully. -/
theorem faithful_ofText {text : String} {document : Value} (written : Yaml.read text = .ok document)
    (printable : document.Printable) (given : Option String) :
    Faithful given document (ofText given text) := by
  have read : ofText given text = ofValue given document := by rw [ofText, written]
  rw [read]
  constructor
  · constructor
    · exact holds_of_ofValue printable
    · rintro ⟨rows, holds⟩
      rw [ofValue_of_holds given printable holds]
      exact ⟨_, rfl⟩
  · intro rowless
    cases ended : (ofValue given document).outcome with
    | ok trace => exact absurd (holds_of_ofValue printable ⟨trace, ended⟩) rowless
    | error fault =>
      obtain ⟨error, rfl⟩ := refused_of_printable printable ended
      exact ⟨error, rfl⟩
  · intro rows holds
    exact ofValue_of_holds given printable holds
  · intro rows _ statement among
    exact filled_of_mem_statementsOf among

end Texts

/-! ## Rows that cannot be read -/

section Unread

variable [Runtime]

/-- The entries of a row that tests a value. -/
def testEntries (value : Value) : List (Value × Value) :=
  [(.text "kind", .text "test"), (.text "expression", value)]

/-- The row that tests a value. -/
def testRow (value : Value) : Value :=
  .mapping (testEntries value)

/-- A document with a single row. -/
def singleTest (value : Value) : Value :=
  .mapping [(.text "statements", .list [testRow value])]

theorem word_test : word (.text "test") = StatementKind.test.keyword := by
  change Text.lowerCase (Text.trim "test") = _
  decide +kernel

theorem says_testEntries (value : Value) :
    Says (testEntries value) ⟨.test, .localScope, [value], none⟩ :=
  ⟨⟨.text "test", rfl, word_test⟩, rfl, ⟨value, rfl, rfl⟩, rfl⟩

theorem holds_singleTest (value : Value) : Holds (singleTest value) [⟨.test, .localScope, [value], none⟩] :=
  ⟨[testRow value], .cons ⟨_, rfl, says_testEntries value⟩ .nil, .inr ⟨_, rfl, .inl rfl⟩⟩

/-- A row whose expression cannot be shown is not read. -/
theorem readRow_testRow {fault : ValueFault} (unshowable : value.showingFault? = some fault) :
    readRow 1 (testRow value) = Journaled.fail (.value fault) := by
  have unwritten : value.plainText = .error fault := by rw [Value.plainText, unshowable]
  have text : expressionText value = Journaled.fail (.value fault) := by
    cases value with
    | null =>
      rw [Value.printable_null.showingFault?_eq_none] at unshowable
      cases unshowable
    | _ =>
      simp only [expressionText, unwritten]
      rfl
  have ofKind (kind : Value) (found : Value.lookup "kind" (testEntries value) = some kind) : kind.Printable := by
    obtain rfl := Option.some.inj found
    exact Value.printable_text _
  have ofScope (scope : Value) (found : Value.lookup "scope" (testEntries value) = some scope) : scope.Printable := by
    cases found
  rw [readRow_of_entries 1 rfl (says_testEntries value) ofKind ofScope, readExpressions, text]
  rfl

/-- A document whose expression cannot be shown is not read. -/
theorem ofValue_singleTest (given : Option String) {fault : ValueFault}
    (unshowable : value.showingFault? = some fault) :
    (ofValue given (singleTest value)).outcome = .error (.value fault) := by
  have rowRead := readRow_testRow unshowable
  show (do
    let statements ← readRows 1 [testRow value]
    let name ← readName given [(.text "statements", .list [testRow value])]
    return ({ name, statements } : Trace)).outcome = _
  rw [readRows, rowRead]
  rfl

end Unread

section Standard

open scoped TraceAutomata.Runtime

/-- Two rows with expressions left out; the first one has no other. -/
def blankRows : String :=
  "- kind: test\n  expression: ''\n- kind: TEST\n  expressions: [null, 7]\n"

/-- The second row alone becomes a statement, and it keeps its number. -/
theorem faithful_blankRows :
    ∃ document, Yaml.read blankRows = .ok document ∧ document.Printable ∧
      Faithful (some "t") document (ofText (some "t") blankRows) ∧
      (ofText (some "t") blankRows).events = [.expressionSkipped 1, .expressionSkipped 2] ∧
      (ofText (some "t") blankRows).outcome =
        .ok { name := "t", statements := [{ kind := .test, expressions := ["7"] }] } := by
  -- The text is read once, for all that is said of its document.
  have computed : (match Yaml.read blankRows with
      | .ok document => decide (document.Printable ∧
          (ofValue (some "t") document).events = [.expressionSkipped 1, .expressionSkipped 2] ∧
          (ofValue (some "t") document).outcome =
            .ok { name := "t", statements := [{ kind := .test, expressions := ["7"] }] })
      | .error _ => false) = true := by
    decide +kernel
  cases written : Yaml.read blankRows with
  | error fault =>
    rw [written] at computed
    contradiction
  | ok document =>
    rw [written] at computed
    obtain ⟨printable, said⟩ := of_decide_eq_true computed
    have read : ofText (some "t") blankRows = ofValue (some "t") document := by rw [ofText, written]
    refine ⟨document, rfl, printable, faithful_ofText written printable (some "t"), ?_⟩
    rwa [read]

/-- Lists within each other, further than calls can be nested. No more than three hundred of them are written at once,
and the others stand under the label of those that are. -/
def deepValue : Value :=
  Value.nested 300 (.shared 2 (Value.nested 300 (.shared 1 (Value.nested 300 (.shared 0
    (Value.nested 300 (.list [])))))))

theorem showingFault?_deepValue : deepValue.showingFault? = some .nestedTooDeeply := by
  have innermost : Value.faultWithin [0, 1, 2] 90 (Value.nested 300 (.list [])) = some .nestedTooDeeply :=
    Value.faultWithin_nested_of_le _ (by decide) []
  calc deepValue.showingFault?
      = Value.faultWithin [] (300 + 690) deepValue := rfl
    _ = Value.faultWithin [2] (300 + 390) (Value.nested 300 (.shared 1 (Value.nested 300 (.shared 0
          (Value.nested 300 (.list [])))))) := by
        rw [deepValue, Value.faultWithin_nested, Value.faultWithin]
        rfl
    _ = Value.faultWithin [1, 2] (300 + 90) (Value.nested 300 (.shared 0
          (Value.nested 300 (.list [])))) := by
        rw [Value.faultWithin_nested, Value.faultWithin]
        rfl
    _ = some .nestedTooDeeply := by
        rw [Value.faultWithin_nested, Value.faultWithin]
        exact innermost

/-- A document that holds a row and has no integers in it is not read, because its expression cannot be shown. -/
theorem deep_document_unread :
    (singleTest deepValue).ShortIntegers ∧ (∃ rows, Holds (singleTest deepValue) rows) ∧
      (ofValue none (singleTest deepValue)).outcome = .error (.value .nestedTooDeeply) :=
  ⟨(Value.hasShortIntegers_iff _).mp (by decide +kernel), ⟨_, holds_singleTest deepValue⟩,
    ofValue_singleTest none showingFault?_deepValue⟩

end Standard

end TraceAutomata.Trace
