import TraceAutomata.Dump.Document
import TraceAutomata.Proofs.Xml.Decoding
import TraceAutomata.Proofs.Xml.Marks

/-!
# Labels of a document

The guard and the update of an edge are labels of its transition. The document has a place for one update
only; of an edge with several none is written, and a warning names the edge. `UpdatesAccounted` says that
between the labels and the warnings no update goes unmentioned.
-/

namespace TraceAutomata.Xml

/-! ## Labels -/

/-- The text of a label under a keyword, read back. -/
def Mark.labelText? (keyword : String) : Mark → Option String
  | .label found text => if found = keyword then some (decodeText text) else none
  | _ => none

/-- The texts of the labels under a keyword in a row of marks. -/
def labelTexts (keyword : String) (row : List Mark) : List String :=
  row.filterMap (Mark.labelText? keyword)

/-- What a document says in each transition, template by template. -/
def allTransitions (document : String) : List (List Mark) :=
  (blocks document).flatMap transitions

/-- The text that the view of an edge has in a role. -/
def EdgeView.textIn (edge : EdgeView) : Role → Option String
  | .guard => edge.guard
  | .update => edge.update
  | .declaration => none

theorem EdgeView.labelTexts_marks (edge : EdgeView) (role : Role) :
    labelTexts role.keyword edge.marks = (edge.textIn role).toList := by
  cases role <;> cases guard : edge.guard <;> cases update : edge.update <;>
    simp [EdgeView.marks, EdgeView.textIn, labelTexts, List.filterMap_cons, Mark.labelText?, Role.keyword,
      guard, update, decodeText_escapeText]

theorem LocationView.labelTexts_marks (location : LocationView) (role : Role) :
    labelTexts role.keyword location.marks = [] := by
  cases role <;> cases comment : location.comment <;>
    simp [LocationView.marks, labelTexts, Mark.labelText?, Role.keyword, commentKeyword, comment]

theorem TemplateView.labelTexts_marks (template : TemplateView) (role : Role) :
    labelTexts role.keyword template.marks =
      template.edges.flatMap fun edge => (edge.textIn role).toList := by
  have edges : ∀ edge : EdgeView, labelTexts role.keyword
      (.transitionStart :: edge.marks ++ [.transitionEnd]) = (edge.textIn role).toList := by
    intro edge
    have inner := edge.labelTexts_marks role
    simp only [labelTexts] at inner
    simp [labelTexts, List.filterMap_cons, Mark.labelText?, inner]
  rw [TemplateView.marks, labelTexts, List.filterMap_append, List.filterMap_append,
    filterMap_flatMap_of_silent fun location => location.labelTexts_marks role, List.filterMap_flatMap]
  exact congrArg (template.edges.flatMap ·) (funext edges)

theorem labelTexts_textOfLines (view : View) (role : Role) :
    labelTexts role.keyword (marks (textOfLines view.lines)) =
      view.templates.flatMap fun template =>
        template.edges.flatMap fun edge => (edge.textIn role).toList := by
  have templates : ∀ template : TemplateView, labelTexts role.keyword
      (.templateStart :: template.marks ++ [.templateEnd]) =
        template.edges.flatMap fun edge => (edge.textIn role).toList := by
    intro template
    have inner := template.labelTexts_marks role
    simp only [labelTexts] at inner
    simp [labelTexts, List.filterMap_cons, Mark.labelText?, inner]
  rw [marks_textOfLines, labelTexts, List.filterMap_flatMap]
  exact congrArg (view.templates.flatMap ·) (funext templates)

theorem allTransitions_textOfLines (view : View) :
    allTransitions (textOfLines view.lines) =
      view.templates.flatMap fun template => template.edges.map EdgeView.marks := by
  rw [allTransitions, blocks_textOfLines, List.flatMap_map]
  exact congrArg (view.templates.flatMap ·) (funext TemplateView.transitions_marks)

/-- The labels in the roles of expressions stand in the transitions. -/
theorem labelTexts_marks_eq (view : View) (role : Role) :
    labelTexts role.keyword (marks (textOfLines view.lines)) =
      (allTransitions (textOfLines view.lines)).flatMap (labelTexts role.keyword) := by
  rw [labelTexts_textOfLines, allTransitions_textOfLines, List.flatMap_assoc]
  simp only [List.flatMap_map, EdgeView.labelTexts_marks]

/-! ## Edges and their transitions -/

/-- Members that are related because parts of them are equal have these parts in common. -/
theorem flatMap_eq_of_forall₂ {α β γ : Type} {first : α → List γ} {second : β → List γ}
    {left : List α} {right : List β} (related : List.Forall₂ (fun one other => first one = second other) left right) :
    left.flatMap first = right.flatMap second := by
  induction related with
  | nil => rfl
  | cons same _ inductionHypothesis => rw [List.flatMap_cons, List.flatMap_cons, same, inductionHypothesis]

/-- The edges of a network in the order of its templates, each with its template. -/
def placedEdges (network : Network) : List (Template × Edge) :=
  network.templates.members.flatMap fun template => template.edges.members.map fun edge => (template, edge)

/-- Each edge has a transition, in order. -/
theorem forall₂_transitions {network : Network} {view : View} (seen : view? network = some view) :
    List.Forall₂
      (fun placed transition => ∃ shown, edgeView? placed.1 placed.2 = some shown ∧
        transition = shown.marks)
      (placedEdges network) (allTransitions (textOfLines view.lines)) := by
  rw [allTransitions_textOfLines, placedEdges]
  have templates := (of_view? seen).2.2
  generalize network.templates.members = members, view.templates = views at templates ⊢
  induction templates with
  | nil => exact .nil
  | @cons template shown _ _ viewed _ inductionHypothesis =>
    rw [List.flatMap_cons, List.flatMap_cons]
    refine List.rel_append ?_ inductionHypothesis
    rw [List.forall₂_map_left_iff, List.forall₂_map_right_iff]
    exact (of_templateView? viewed).2.2.2.2.imp fun edge edgeShown edgeViewed =>
      ⟨edgeShown, edgeViewed, rfl⟩

/-- What is reported of the edges, edge by edge. -/
theorem networkDroppedUpdates_eq (network : Network) :
    networkDroppedUpdates network =
      (placedEdges network).flatMap fun placed => droppedUpdates placed.1 placed.2 := by
  rw [placedEdges, List.flatMap_assoc]
  simp only [List.flatMap_map]
  rfl

/-! ## No update goes unmentioned -/

/-- A record warns that the updates of an edge are not written. It names the ends of the edge, its template
and the number of its updates. -/
def WarnsOf [Runtime] (placed : Template × Edge) (record : LogRecord) : Prop :=
  ∃ source target, placed.1.locationName? placed.2.source = some source ∧
    placed.1.locationName? placed.2.target = some target ∧
    record =
      { level := .warning
        logger := "trace2nta.backends.uppaal_xml"
        message := "Edge " ++ source ++ " -> " ++ target ++ " in template "
          ++ Text.quoted placed.1.name ++ " has " ++ Text.decimal placed.2.updates.length
          ++ " updates; no assignment label emitted" }

/-- The records in the log are one warning for each edge with several updates. The transition of every other
edge has its update as a label, if there is one, and no labels of updates stand elsewhere. -/
structure UpdatesAccounted [Runtime] (network : Network) (events : List Event) (document : String) : Prop where
  warned : List.Forall₂ WarnsOf
    ((placedEdges network).filter fun placed => 1 < placed.2.updates.length)
    (LogRecord.ofEvents events)
  shown : List.Forall₂
    (fun placed transition => labelTexts Role.update.keyword transition =
      if 1 < placed.2.updates.length then [] else placed.2.updates.map Expression.text)
    (placedEdges network) (allTransitions document)
  inside : labelTexts Role.update.keyword (marks document) =
    (allTransitions document).flatMap (labelTexts Role.update.keyword)

/-- What is reported of edges whose ends name locations is one warning for each of them with several
updates. -/
theorem forall₂_warnsOf [Runtime] {α : Type} {edges : List (Template × Edge)} {rows : List α}
    (connected : List.Forall₂ (fun placed _ => ∃ shown, edgeView? placed.1 placed.2 = some shown)
      edges rows) :
    List.Forall₂ WarnsOf (edges.filter fun placed => 1 < placed.2.updates.length)
      (LogRecord.ofEvents (edges.flatMap fun placed => droppedUpdates placed.1 placed.2)) := by
  induction connected with
  | nil => exact .nil
  | @cons placed _ rest _ viewed _ inductionHypothesis =>
    obtain ⟨shown, seen⟩ := viewed
    obtain ⟨source, target, _⟩ := of_edgeView? seen
    rw [List.flatMap_cons, LogRecord.ofEvents, List.filterMap_append, droppedUpdates, source, target]
    by_cases several : 1 < placed.2.updates.length
    · simp only [several, if_true, decide_true, List.filter_cons_of_pos]
      exact .cons ⟨_, _, source, target, rfl⟩ inductionHypothesis
    · simpa [several, LogRecord.ofEvents] using inductionHypothesis

/-- The guard labels of a transition are the guard of the edge, if it has one. -/
theorem labelTexts_guard {template : Template} {edge : Edge} {shown : EdgeView}
    (seen : edgeView? template edge = some shown) :
    labelTexts Role.guard.keyword shown.marks = (edge.guard.map Expression.text).toList := by
  rw [EdgeView.labelTexts_marks, EdgeView.textIn, (of_edgeView? seen).2.2.1]

/-- The update labels of a transition are the one update of the edge, if it has one. -/
theorem labelTexts_update {template : Template} {edge : Edge} {shown : EdgeView}
    (seen : edgeView? template edge = some shown) :
    labelTexts Role.update.keyword shown.marks =
      if 1 < edge.updates.length then [] else edge.updates.map Expression.text := by
  rw [EdgeView.labelTexts_marks, EdgeView.textIn, (of_edgeView? seen).2.2.2, onlyUpdate?]
  rcases edge.updates with _ | ⟨update, _ | ⟨second, others⟩⟩ <;> simp

/-- Whatever network is rendered, its updates are accounted for. -/
theorem updatesAccounted_of_render [Runtime] {network : Network} {document : String}
    (rendered : (render network).outcome = .ok document) :
    UpdatesAccounted network (render network).events document := by
  obtain ⟨view, seen, rfl⟩ := view_of_render rendered
  have transitions := forall₂_transitions seen
  refine ⟨?_, ?_, ?_⟩
  · rw [render_of_view seen, networkDroppedUpdates_eq]
    refine forall₂_warnsOf (transitions.imp fun placed transition related => ?_)
    obtain ⟨shown, edgeSeen, _⟩ := related
    exact ⟨shown, edgeSeen⟩
  · refine transitions.imp fun placed transition related => ?_
    obtain ⟨shown, edgeSeen, rfl⟩ := related
    exact labelTexts_update edgeSeen
  · exact labelTexts_marks_eq view .update

/-- A dump that is rendered is rendered like the network that it shows. -/
theorem shown_of_render_dump [Runtime] {dump : Dump} {document : String}
    (rendered : dump.render.outcome = .ok document) :
    (render dump.shown).outcome = .ok document ∧ dump.render.events = (render dump.shown).events := by
  unfold Dump.render Dump.inspected at rendered ⊢
  cases inspected : dump.inspectDocument.outcome with
  | error error => simp [inspected] at rendered
  | ok _ =>
    simp only [inspected, Journaled.mapError] at rendered ⊢
    cases outcome : (render dump.shown).outcome with
    | error error => simp [outcome, Except.mapError] at rendered
    | ok text => simpa [outcome, Except.mapError] using rendered

end TraceAutomata.Xml
