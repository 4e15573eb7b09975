import TraceAutomata.Proofs.Chain.Construction
import TraceAutomata.Proofs.Xml.Labels
import TraceAutomata.Runtime.Standard

/-!
# The document of a trace

The document of a chain holds the trace: read in order, its update labels are the assigned expressions, and
its guard labels are the conditions of the tests between them. `Transcribes` says this of a document, and
`updates_accounted` that traversal and rendering together lose nothing: an edge of a chain never has more
than the one update that a document has a place for.
-/

namespace TraceAutomata.Chain

open Traversal Xml

/-- The expressions of the statements of a kind, in the order of the trace. -/
def expressionsOf (kind : StatementKind) (statements : List Statement) : List String :=
  statements.flatMap fun statement => if statement.kind = kind then statement.expressions else []

/-! ## Expressions, groups and links -/

section Expressions

variable (statements : List Statement)

theorem filterMap_test?_occurrences :
    (occurrences statements).filterMap Occurrence.test? = expressionsOf .test statements := by
  have single : ∀ statement : Statement, (Occurrence.ofStatement statement).filterMap Occurrence.test? =
      if statement.kind = .test then statement.expressions else [] := by
    rintro ⟨kind, expressions, comment, scope⟩
    cases kind with
    | declaration => simp [Occurrence.ofStatement, Occurrence.test?]
    | test => simp [Occurrence.ofStatement, Function.comp_def, Occurrence.test?]
    | assignment =>
      cases expressions <;> simp [Occurrence.ofStatement, Occurrence.test?]
  rw [occurrences, List.filterMap_flatMap, expressionsOf]
  exact congrArg (statements.flatMap ·) (funext single)

theorem map_update_assignments :
    (assignments statements).map Assignment.update = expressionsOf .assignment statements := by
  have single : ∀ statement : Statement,
      ((Occurrence.ofStatement statement).filterMap Occurrence.assignment?).map Assignment.update =
        if statement.kind = .assignment then statement.expressions else [] := by
    rintro ⟨kind, expressions, comment, scope⟩
    cases kind with
    | declaration => simp [Occurrence.ofStatement, Occurrence.assignment?]
    | test => simp [Occurrence.ofStatement, Function.comp_def, Occurrence.assignment?]
    | assignment =>
      cases expressions <;>
        simp [Occurrence.ofStatement, Function.comp_def, Occurrence.assignment?]
  rw [assignments, occurrences, List.filterMap_flatMap, List.map_flatMap, expressionsOf]
  exact congrArg (statements.flatMap ·) (funext single)

end Expressions

/-- The groups hold the tests in order. -/
theorem flatten_groupsFrom (tests : List String) (sequence : List Occurrence) :
    (groupsFrom tests sequence).flatten = tests ++ sequence.filterMap Occurrence.test? := by
  induction sequence generalizing tests with
  | nil => simp [groupsFrom_nil]
  | cons occurrence rest inductionHypothesis =>
    cases occurrence with
    | declaration text =>
      rw [groupsFrom_declaration, inductionHypothesis]
      rfl
    | test condition =>
      rw [groupsFrom_test, inductionHypothesis, List.append_assoc]
      rfl
    | assignment assigned =>
      rw [groupsFrom_assignment, List.flatten_cons, inductionHypothesis]
      rfl

/-- The tests of all groups are those of the trace. -/
theorem flatten_testGroups (statements : List Statement) :
    (testGroups statements).flatten = expressionsOf .test statements := by
  rw [testGroups_eq, flatten_groupsFrom, filterMap_test?_occurrences]
  rfl

/-- The links have the assignments in order. -/
theorem flatMap_update_linksFrom (tests : List String) (sequence : List Occurrence) :
    (linksFrom tests sequence).flatMap (fun link => link.update.toList) =
      (sequence.filterMap Occurrence.assignment?).map Assignment.update := by
  induction sequence generalizing tests with
  | nil => by_cases none : tests = [] <;> simp [linksFrom, none]
  | cons occurrence rest inductionHypothesis =>
    cases occurrence with
    | declaration text => exact inductionHypothesis tests
    | test condition => exact inductionHypothesis (tests ++ [condition])
    | assignment assigned =>
      rw [linksFrom, List.flatMap_cons, inductionHypothesis]
      rfl

/-- The links have the conditions of the groups that are not empty, in order. -/
theorem flatMap_guard_linksFrom (tests : List String) (sequence : List Occurrence) :
    (linksFrom tests sequence).flatMap (fun link => link.guard.toList) =
      ((groupsFrom tests sequence).filter (· ≠ [])).map conjunction := by
  have first : ∀ tests others, (pendingGuard tests).toList ++ (others.filter (· ≠ [])).map conjunction =
      ((tests :: others).filter (· ≠ [])).map conjunction := by
    intro tests others
    by_cases none : tests = [] <;> simp [pendingGuard, none]
  induction sequence generalizing tests with
  | nil =>
    rw [groupsFrom_nil, linksFrom]
    by_cases none : tests = [] <;> simp [none, pendingGuard]
  | cons occurrence rest inductionHypothesis =>
    cases occurrence with
    | declaration text =>
      rw [groupsFrom_declaration]
      exact inductionHypothesis tests
    | test condition =>
      rw [groupsFrom_test]
      exact inductionHypothesis (tests ++ [condition])
    | assignment assigned =>
      rw [groupsFrom_assignment, linksFrom, List.flatMap_cons, inductionHypothesis]
      exact first tests _

/-- The links, number by number. -/
theorem links_eq (statements : List Statement) :
    links statements = (List.range (length statements)).map fun index =>
      { guard := pendingGuard (testsBefore statements index)
        update := (assignments statements)[index]?.map Assignment.update
        comment := (assignments statements)[index]?.bind Assignment.comment } := by
  apply List.ext_getElem?
  intro index
  by_cases within : index < length statements
  · rw [getElem?_links within, List.getElem?_map, List.getElem?_range within]
    rfl
  · rw [List.getElem?_eq_none (by simpa [length_links] using within),
      List.getElem?_eq_none (by simpa using within)]

/-! ## The document of a chain -/

/-- The document of a trace, as its labels show it: what all update labels hold, what all guard labels hold,
and which of them each transition has. -/
structure Transcribes (statements : List Statement) (document : String) : Prop where
  assigned : labelTexts Role.update.keyword (marks document) = expressionsOf .assignment statements
  guarded : labelTexts Role.guard.keyword (marks document) =
    ((testGroups statements).filter (· ≠ [])).map conjunction
  tested : (testGroups statements).flatten = expressionsOf .test statements
  counted : (allTransitions document).length = length statements
  placed : ∀ index row, (allTransitions document)[index]? = some row →
    labelTexts Role.guard.keyword row = (pendingGuard (testsBefore statements index)).toList ∧
      labelTexts Role.update.keyword row =
        ((assignments statements)[index]?.map Assignment.update).toList

section Chains

variable (config : Config) (name : String) (statements : List Statement)

/-- The edges of a chain stand in its only template. -/
theorem placedEdges_network :
    placedEdges (network config name statements) =
      (List.range (length statements)).map fun index =>
        (template config name statements, edgeAt statements index) := by
  show [template config name statements].flatMap _ = _
  rw [List.flatMap_singleton]
  exact List.map_map

/-- A chain has a transition for each number, with the label of the tests before its assignment and the
label of the assignment. -/
theorem forall₂_labels {view : View} (seen : view? (network config name statements) = some view) :
    List.Forall₂
      (fun index row =>
        labelTexts Role.guard.keyword row = (pendingGuard (testsBefore statements index)).toList ∧
          labelTexts Role.update.keyword row =
            ((assignments statements)[index]?.map Assignment.update).toList)
      (List.range (length statements)) (allTransitions (textOfLines view.lines)) := by
  have related := forall₂_transitions seen
  rw [placedEdges_network, List.forall₂_map_left_iff] at related
  refine related.imp fun index row related => ?_
  obtain ⟨shown, edgeSeen, rfl⟩ := related
  constructor
  · rw [labelTexts_guard edgeSeen, edgeAt, pendingGuard]
    by_cases none : testsBefore statements index = [] <;> simp [none]
  · rw [labelTexts_update edgeSeen, edgeAt]
    cases (assignments statements)[index]? <;> simp

/-- The document of a chain transcribes the trace. -/
theorem transcribes_of_view {view : View} (seen : view? (network config name statements) = some view) :
    Transcribes statements (textOfLines view.lines) := by
  have related := forall₂_labels config name statements seen
  have guards := flatMap_eq_of_forall₂ (related.imp fun _ _ labels => labels.1.symm)
  have updates := flatMap_eq_of_forall₂ (related.imp fun _ _ labels => labels.2.symm)
  have linkGuards := flatMap_guard_linksFrom [] (occurrences statements)
  have linkUpdates := flatMap_update_linksFrom [] (occurrences statements)
  rw [← links, links_eq, List.flatMap_map] at linkGuards linkUpdates
  refine ⟨?_, ?_, flatten_testGroups statements, ?_, ?_⟩
  · rw [labelTexts_marks_eq, ← updates, linkUpdates, ← map_update_assignments]
    rfl
  · rw [labelTexts_marks_eq, ← guards, linkGuards, testGroups_eq]
  · rw [← related.length_eq, List.length_range]
  · intro index row found
    obtain ⟨within, rfl⟩ := List.getElem?_eq_some_iff.mp found
    have inRange : index < (List.range (length statements)).length := by
      rwa [related.length_eq]
    have labels := related.get inRange within
    simpa using labels

/-- The network of a trace is rendered without a warning, as a document that transcribes the trace. -/
theorem render_network :
    ∃ document, render (network config name statements) = ⟨[], .ok document⟩ ∧
      Transcribes statements document := by
  obtain ⟨view, seen⟩ := problems_eq_nil_iff.mp (problems_network config name statements)
  have silent : networkDroppedUpdates (network config name statements) = [] := by
    rw [networkDroppedUpdates_eq, placedEdges_network, List.flatMap_map, List.flatMap_eq_nil_iff]
    intro index _
    have one : ¬1 < (edgeAt statements index).updates.length := by
      rw [edgeAt]
      cases (assignments statements)[index]? <;> simp
    simp only [droppedUpdates, one, if_false]
    split <;> rfl
  exact ⟨textOfLines view.lines, by rw [render_of_view seen, silent],
    transcribes_of_view config name statements seen⟩

end Chains

/-- No update is lost unmentioned. Whatever network or dump is rendered, the log has one warning for each
edge with several updates, and every other update is a label. The network of a trace is always rendered, no
warning is reported, and its labels are the expressions of the trace. -/
theorem updates_accounted [Runtime] :
    (∀ network document, (render network).outcome = .ok document →
        UpdatesAccounted network (render network).events document) ∧
      (∀ (dump : Dump) document, dump.render.outcome = .ok document →
        UpdatesAccounted dump.shown dump.render.events document) ∧
      ∀ config name statements builder, ∃ network document,
        (build config name statements builder).answer = .ok network ∧
          render network = ⟨[], .ok document⟩ ∧ Transcribes statements document := by
  refine ⟨fun network document rendered => updatesAccounted_of_render rendered, ?_, ?_⟩
  · intro dump document rendered
    obtain ⟨shown, events⟩ := shown_of_render_dump rendered
    rw [events]
    exact updatesAccounted_of_render shown
  · intro config name statements builder
    obtain ⟨document, rendered, transcribed⟩ := render_network config name statements
    refine ⟨network config name statements, document, ?_, rendered, transcribed⟩
    have built := build_outcome config name statements builder
    unfold Built.outcome at built
    cases answer : (build config name statements builder).answer with
    | error error => simp [answer, Except.map] at built
    | ok found =>
      rw [answer] at built
      exact congrArg Except.ok (Prod.mk.inj (Except.ok.inj built)).1

section Standard

open scoped TraceAutomata.Runtime

/-- A network with an edge of two updates, which is rendered with a warning. -/
theorem looping_updates_accounted :
    ∃ document, (render (looping 0 [⟨"x"⟩, ⟨"y"⟩])).outcome = .ok document ∧
      UpdatesAccounted (looping 0 [⟨"x"⟩, ⟨"y"⟩]) (render (looping 0 [⟨"x"⟩, ⟨"y"⟩])).events document :=
  ⟨_, rfl, updates_accounted.1 _ _ rfl⟩

end Standard

end TraceAutomata.Chain
