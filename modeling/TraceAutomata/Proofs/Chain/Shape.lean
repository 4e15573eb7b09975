import TraceAutomata.Proofs.Registry
import TraceAutomata.Traversal

/-!
# The chain that a trace prescribes

A trace is read as the sequence of its expressions. `network` is what it prescribes, given
location by location and edge by edge: edge `i` carries the `i`-th assignment and the tests between that
assignment and the one before it, and tests after the last assignment have an edge of their own.

`linksFrom` gives the same edges by recursion on the sequence, with the tests that wait for an edge as its
parameter; `getElem?_linksFrom` says that the two descriptions agree.
-/

namespace TraceAutomata.Chain

open Traversal

/-! ## The expressions of a trace -/

/-- An assigned expression, with the comment for the location it leads to. -/
structure Assignment where
  update : String
  comment : Option String
  deriving DecidableEq, Repr

/-- An expression of a trace, as a declaration, a test or an assignment. -/
inductive Occurrence
  | declaration (text : String)
  | test (condition : String)
  | assignment (assigned : Assignment)
  deriving DecidableEq, Repr

namespace Occurrence

/-- Whether an occurrence is an assignment. -/
def isAssignment : Occurrence → Bool
  | declaration _ | test _ => false
  | assignment _ => true

/-- The tested expression, if the occurrence is a test. -/
def test? : Occurrence → Option String
  | test condition => some condition
  | declaration _ | assignment _ => none

/-- The assignment, if the occurrence is one. -/
def assignment? : Occurrence → Option Assignment
  | declaration _ | test _ => none
  | assignment assigned => some assigned

/-- The expressions of one statement. The comment of a statement goes with its first expression. -/
def ofStatement (statement : Statement) : List Occurrence :=
  match statement.kind, statement.expressions with
  | .declaration, texts => texts.map declaration
  | .test, conditions => conditions.map test
  | .assignment, [] => []
  | .assignment, first :: rest =>
    assignment ⟨first, statement.comment⟩ :: rest.map fun update => assignment ⟨update, none⟩

end Occurrence

/-- The expressions of a trace in order. -/
def occurrences (statements : List Statement) : List Occurrence :=
  statements.flatMap Occurrence.ofStatement

/-- The assignments of a trace in order. -/
def assignments (statements : List Statement) : List Assignment :=
  (occurrences statements).filterMap Occurrence.assignment?

/-- The tests before the first assignment, between each two that follow each other, and after the last. -/
def testGroups (statements : List Statement) : List (List String) :=
  ((occurrences statements).splitOnP Occurrence.isAssignment).map
    fun block => block.filterMap Occurrence.test?

/-- The tests before the assignment of a number; for the number of all assignments, those after the last
one. -/
def testsBefore (statements : List Statement) (index : Nat) : List String :=
  (testGroups statements).getD index []

/-- The number of edges: one for each assignment, and one for tests after the last assignment. -/
def length (statements : List Statement) : Nat :=
  let assigned := (assignments statements).length
  if testsBefore statements assigned = [] then assigned else assigned + 1

/-! ## Locations and edges -/

/-- The declarations of a scope, in the order of the trace. -/
def declarations (statements : List Statement) (scope : DeclarationScope) : List Declaration :=
  (statements.filter fun statement => statement.kind = .declaration ∧ statement.scope = scope).flatMap
    fun statement => statement.expressions.map fun expression => ⟨expression⟩

/-- The location of a number. All but the first are reached by the edge of the number before. -/
def locationAt (config : Config) (statements : List Statement) : Nat → Location
  | 0 => { id := 0, owner := 0, name := Build.locationName config.initialStem 0 }
  | index + 1 =>
    { id := index + 1, owner := 0, name := Build.locationName config.locationStem (index + 1),
      comment := ((assignments statements)[index]?.bind Assignment.comment).filter
        fun comment => !comment.isEmpty }

/-- The edge of a number. It leads to the next location, under the condition of the tests before its
assignment, and carries the assignment as its only update. -/
def edgeAt (statements : List Statement) (index : Nat) : Edge :=
  let tests := testsBefore statements index
  { id := index, owner := 0, source := some index, target := some (index + 1),
    guard := if tests = [] then none else some ⟨conjunction tests⟩,
    updates := (assignments statements)[index]?.toList.map fun assigned => ⟨assigned.update⟩ }

theorem id_locationAt (config : Config) (statements : List Statement) (index : Nat) :
    (locationAt config statements index).id = index := by
  cases index <;> rfl

theorem id_edgeAt (statements : List Statement) (index : Nat) :
    (edgeAt statements index).id = index := rfl

/-- The only template of a chain. -/
def template (config : Config) (name : String) (statements : List Statement) : Template :=
  { id := 0
    name := templateName config name
    declarations := declarations statements .localScope
    locations := .numbered (locationAt config statements) (id_locationAt config statements)
      (length statements + 1)
    edges := .numbered (edgeAt statements) (id_edgeAt statements) (length statements)
    initial := some 0 }

/-- The network of a trace: one template that is a chain of locations. -/
def network (config : Config) (name : String) (statements : List Statement) : Network :=
  { name
    globalDeclarations := declarations statements .globalScope
    systemDeclarations := declarations statements .systemScope
    templates := .single (template config name statements)
    locationCount := length statements + 1 }

/-! ## Links -/

/-- The links that some expressions add to a chain on which some tests wait for the next edge. -/
def linksFrom : List String → List Occurrence → List Link
  | tests, [] => if tests = [] then [] else [{ guard := pendingGuard tests }]
  | tests, .declaration _ :: rest => linksFrom tests rest
  | tests, .test condition :: rest => linksFrom (tests ++ [condition]) rest
  | tests, .assignment assigned :: rest =>
    { guard := pendingGuard tests, update := some assigned.update, comment := assigned.comment }
      :: linksFrom [] rest

/-- The links of a trace. -/
def links (statements : List Statement) : List Link :=
  linksFrom [] (occurrences statements)

/-- The location to which a link leads that has so many links before it. -/
def locationOf (config : Config) (index : Nat) (link : Link) : Location :=
  { id := index + 1, owner := 0, name := Build.locationName config.locationStem (index + 1),
    comment := link.shownComment? }

/-- The edge of a link that has so many links before it. -/
def edgeOf (index : Nat) (link : Link) : Edge :=
  { id := index, owner := 0, source := some index, target := some (index + 1),
    guard := link.guard.map fun text => ⟨text⟩, updates := link.update.toList.map fun text => ⟨text⟩ }

/-- Declarations add no links. -/
theorem linksFrom_declarations (tests texts : List String) (rest : List Occurrence) :
    linksFrom tests (texts.map .declaration ++ rest) = linksFrom tests rest := by
  induction texts with
  | nil => rfl
  | cons text others inductionHypothesis => exact inductionHypothesis

/-- Tests that wait are linked like tests that come first. -/
theorem linksFrom_tests (tests conditions : List String) (rest : List Occurrence) :
    linksFrom tests (conditions.map .test ++ rest) = linksFrom (tests ++ conditions) rest := by
  induction conditions generalizing tests with
  | nil => simp
  | cons condition others inductionHypothesis =>
    simp only [List.map_cons, List.cons_append, linksFrom]
    rw [inductionHypothesis]
    simp

/-- The tests of a sequence in groups, of which the first begins with tests that wait. -/
def groupsFrom (tests : List String) (sequence : List Occurrence) : List (List String) :=
  ((sequence.splitOnP Occurrence.isAssignment).map fun block =>
    block.filterMap Occurrence.test?).modifyHead (tests ++ ·)

/-- Without tests that wait the groups are as they are. -/
theorem groupsFrom_nil_left (sequence : List Occurrence) :
    groupsFrom [] sequence = (sequence.splitOnP Occurrence.isAssignment).map fun block =>
      block.filterMap Occurrence.test? := by
  rw [groupsFrom]
  cases (sequence.splitOnP Occurrence.isAssignment).map fun block =>
    block.filterMap Occurrence.test? <;> rfl

theorem groupsFrom_nil (tests : List String) : groupsFrom tests [] = [tests] := by
  simp [groupsFrom]

theorem groupsFrom_declaration (tests : List String) (text : String) (rest : List Occurrence) :
    groupsFrom tests (.declaration text :: rest) = groupsFrom tests rest := by
  rw [groupsFrom, groupsFrom, List.splitOnP_cons_eq_if_modifyHead]
  cases blocks : rest.splitOnP Occurrence.isAssignment with
  | nil => exact absurd blocks (List.splitOnP_ne_nil Occurrence.isAssignment rest)
  | cons block others => simp [Occurrence.isAssignment, Occurrence.test?, List.filterMap_cons]

theorem groupsFrom_test (tests : List String) (condition : String) (rest : List Occurrence) :
    groupsFrom tests (.test condition :: rest) = groupsFrom (tests ++ [condition]) rest := by
  rw [groupsFrom, groupsFrom, List.splitOnP_cons_eq_if_modifyHead]
  cases blocks : rest.splitOnP Occurrence.isAssignment with
  | nil => exact absurd blocks (List.splitOnP_ne_nil Occurrence.isAssignment rest)
  | cons block others => simp [Occurrence.isAssignment, Occurrence.test?]

theorem groupsFrom_assignment (tests : List String) (assigned : Assignment)
    (rest : List Occurrence) :
    groupsFrom tests (.assignment assigned :: rest) = tests :: groupsFrom [] rest := by
  rw [groupsFrom_nil_left, groupsFrom, List.splitOnP_cons_eq_if_modifyHead]
  simp [Occurrence.isAssignment]

theorem testGroups_eq (statements : List Statement) :
    testGroups statements = groupsFrom [] (occurrences statements) :=
  (groupsFrom_nil_left _).symm

theorem length_groupsFrom (tests : List String) (sequence : List Occurrence) :
    (groupsFrom tests sequence).length =
      (sequence.filterMap Occurrence.assignment?).length + 1 := by
  induction sequence generalizing tests with
  | nil => rw [groupsFrom_nil]; rfl
  | cons occurrence rest inductionHypothesis =>
    cases occurrence with
    | declaration text =>
      rw [groupsFrom_declaration]
      exact inductionHypothesis tests
    | test condition =>
      rw [groupsFrom_test]
      exact inductionHypothesis (tests ++ [condition])
    | assignment assigned =>
      rw [groupsFrom_assignment, List.length_cons, inductionHypothesis]
      rfl

/-- There is a group of tests before each assignment, and one after the last. -/
theorem length_testGroups (statements : List Statement) :
    (testGroups statements).length = (assignments statements).length + 1 := by
  rw [testGroups_eq, length_groupsFrom]
  rfl

theorem length_linksFrom (tests : List String) (sequence : List Occurrence) :
    (linksFrom tests sequence).length =
      let assigned := (sequence.filterMap Occurrence.assignment?).length
      if (groupsFrom tests sequence).getD assigned [] = [] then assigned else assigned + 1 := by
  induction sequence generalizing tests with
  | nil =>
    rw [groupsFrom_nil, linksFrom]
    by_cases none : tests = [] <;> simp [none]
  | cons occurrence rest inductionHypothesis =>
    cases occurrence with
    | declaration text =>
      rw [groupsFrom_declaration, linksFrom]
      exact inductionHypothesis tests
    | test condition =>
      rw [groupsFrom_test, linksFrom]
      exact inductionHypothesis (tests ++ [condition])
    | assignment assigned =>
      rw [groupsFrom_assignment, linksFrom, List.length_cons, inductionHypothesis]
      simp only [List.filterMap_cons, Occurrence.assignment?, List.length_cons, List.getD_cons_succ]
      split <;> rfl

/-- The link of a number carries the assignment of that number and the tests of the group before it. -/
theorem getElem?_linksFrom (tests : List String) (sequence : List Occurrence) {index : Nat}
    (within : index < (linksFrom tests sequence).length) :
    (linksFrom tests sequence)[index]? =
      let assigned := (sequence.filterMap Occurrence.assignment?)[index]?
      some
        { guard := pendingGuard ((groupsFrom tests sequence).getD index [])
          update := assigned.map Assignment.update
          comment := assigned.bind Assignment.comment } := by
  induction sequence generalizing tests index with
  | nil =>
    rw [groupsFrom_nil]
    by_cases none : tests = []
    · simp [linksFrom, none] at within
    · have first : index = 0 := by simpa [linksFrom, none] using within
      simp [linksFrom, none, first]
  | cons occurrence rest inductionHypothesis =>
    cases occurrence with
    | declaration text =>
      rw [groupsFrom_declaration]
      exact inductionHypothesis tests within
    | test condition =>
      rw [groupsFrom_test]
      exact inductionHypothesis (tests ++ [condition]) within
    | assignment assigned =>
      rw [groupsFrom_assignment]
      cases index with
      | zero => simp [linksFrom, Occurrence.assignment?]
      | succ index =>
        have withinRest : index < (linksFrom [] rest).length := by simpa [linksFrom] using within
        simpa [linksFrom, Occurrence.assignment?] using inductionHypothesis [] withinRest

/-! ## The two descriptions agree -/

variable (config : Config) (statements : List Statement)

theorem length_links : (links statements).length = length statements := by
  rw [links, length_linksFrom, ← testGroups_eq]
  rfl

variable {statements}

theorem getElem?_links {index : Nat} (within : index < length statements) :
    (links statements)[index]? =
      some
        { guard := pendingGuard (testsBefore statements index)
          update := (assignments statements)[index]?.map Assignment.update
          comment := (assignments statements)[index]?.bind Assignment.comment } := by
  rw [← length_links] at within
  rw [links, getElem?_linksFrom [] _ within, ← testGroups_eq]
  rfl

theorem edgeOf_eq_edgeAt {index : Nat} {link : Link}
    (guarded : link.guard = pendingGuard (testsBefore statements index))
    (updated : link.update = (assignments statements)[index]?.map Assignment.update) :
    edgeOf index link = edgeAt statements index := by
  have guards : link.guard.map (fun text => (⟨text⟩ : Guard)) = (edgeAt statements index).guard := by
    rw [guarded, edgeAt, pendingGuard]
    by_cases none : testsBefore statements index = [] <;> simp [none]
  have updates : link.update.toList.map (fun text => (⟨text⟩ : Update)) =
      (edgeAt statements index).updates := by
    rw [updated, edgeAt]
    cases (assignments statements)[index]? <;> rfl
  rw [edgeOf, guards, updates]
  rfl

/-- The edges of the links are the edges of the chain. -/
theorem mapIdx_edgeOf :
    (links statements).mapIdx edgeOf = (List.range (length statements)).map (edgeAt statements) := by
  apply List.ext_getElem?
  intro index
  by_cases within : index < length statements
  · rw [List.getElem?_mapIdx, getElem?_links within, List.getElem?_map,
      List.getElem?_range within]
    exact congrArg some (edgeOf_eq_edgeAt rfl rfl)
  · rw [List.getElem?_eq_none (by simpa [length_links] using within),
      List.getElem?_eq_none (by simpa using within)]

/-- The locations to which the links lead, after the initial one, are the locations of the chain. -/
theorem cons_mapIdx_locationOf :
    locationAt config statements 0 :: (links statements).mapIdx (locationOf config) =
      (List.range (length statements + 1)).map (locationAt config statements) := by
  rw [List.range_succ_eq_map, List.map_cons, List.map_map]
  congr 1
  apply List.ext_getElem?
  intro index
  by_cases within : index < length statements
  · rw [List.getElem?_mapIdx, getElem?_links within, List.getElem?_map,
      List.getElem?_range within]
    rfl
  · rw [List.getElem?_eq_none (by simpa [length_links] using within),
      List.getElem?_eq_none (by simpa using within)]

end TraceAutomata.Chain
