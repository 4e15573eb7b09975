import TraceAutomata.Proofs.Journal
import TraceAutomata.Proofs.Registry
import TraceAutomata.Proofs.Xml.View

/-!
# Rendering

A network has a view exactly when it has no problems (`problems_eq_nil_iff`). It is then rendered, as the
text of the lines for its view, and all that is reported is which edges have updates that the document has
no place for (`render_of_view`). A network with problems is not rendered, so the errors for single templates
and edges never show.
-/

namespace TraceAutomata.Xml

/-! ## Lines of networks are lines of views -/

theorem declarationLines_eq (declarations : List Declaration) :
    declarationLines declarations = blockLines (joined "\n\n" declarations) := by
  cases declarations <;> rfl

theorem transitionLines_eq (edge : Edge) (source target : String) :
    transitionLines edge source target =
      EdgeView.lines ⟨source, target, edge.guard.map Expression.text, onlyUpdate? edge⟩ := by
  have guards : (edge.guard.map expressionLabel).toList =
      labelLines Role.guard.keyword (edge.guard.map Expression.text) := by
    cases edge.guard <;> rfl
  have updates : updateLabel edge = labelLines Role.update.keyword (onlyUpdate? edge) := by
    unfold updateLabel onlyUpdate?
    rcases edge.updates with _ | ⟨update, _ | ⟨second, others⟩⟩ <;> rfl
  rw [transitionLines, guards, updates]
  rfl

/-! ## Views and problems -/

section References

variable {Content : Type} {template : Template Content} {edge : Edge Content}

/-- A reference names a location when it is set to an identifier that is taken. -/
theorem exists_locationName?_iff {reference : Option Int} :
    (∃ name, template.locationName? reference = some name) ↔
      ∃ wanted, reference = some wanted ∧ template.locations.contains wanted = true := by
  cases reference with
  | none => simp [Template.locationName?]
  | some wanted =>
    simp [Template.locationName?, Template.location?, Registry.contains, Option.isSome_iff_exists]

theorem initialProblems_eq_nil_iff :
    template.initialProblems = [] ↔ ∃ name, template.locationName? template.initial = some name := by
  rw [exists_locationName?_iff, Template.initialProblems]
  cases template.initial <;> simp

theorem endProblems_eq_nil_iff {which : EdgeEnd} :
    template.endProblems edge which = [] ↔
      ∃ name, template.locationName? (edge.reference which) = some name := by
  rw [exists_locationName?_iff, Template.endProblems]
  cases edge.reference which <;> simp

end References

section Problems

variable {template : Template} {edge : Edge}

theorem edgeProblems_eq_nil_iff :
    template.edgeProblems edge = [] ↔ ∃ view, edgeView? template edge = some view := by
  rw [Template.edgeProblems, List.append_eq_nil_iff, endProblems_eq_nil_iff, endProblems_eq_nil_iff]
  constructor
  · rintro ⟨⟨source, sourceNamed⟩, target, targetNamed⟩
    refine ⟨⟨source, target, edge.guard.map Expression.text, onlyUpdate? edge⟩, ?_⟩
    change template.locationName? edge.source = _ at sourceNamed
    change template.locationName? edge.target = _ at targetNamed
    rw [edgeView?, sourceNamed, targetNamed]
    rfl
  · rintro ⟨view, seen⟩
    exact ⟨⟨_, (of_edgeView? seen).1⟩, _, (of_edgeView? seen).2.1⟩

theorem templateProblems_eq_nil_iff :
    template.problems = [] ↔ ∃ view, templateView? template = some view := by
  rw [Template.problems, List.append_eq_nil_iff, initialProblems_eq_nil_iff, List.flatMap_eq_nil_iff]
  simp only [edgeProblems_eq_nil_iff, ← exists_mapM_iff]
  constructor
  · rintro ⟨⟨initial, initialNamed⟩, edges, edgesSeen⟩
    refine ⟨⟨template.name, joined "\n\n" template.declarations,
      template.locations.members.map locationView, initial, edges⟩, ?_⟩
    rw [templateView?, initialNamed, edgesSeen]
    rfl
  · rintro ⟨view, seen⟩
    obtain ⟨_, _, _, initial, edges⟩ := of_templateView? seen
    exact ⟨⟨_, initial⟩, _, mapM_eq_some_iff.mpr edges⟩

/-- A network has a view exactly when it has no problems. -/
theorem problems_eq_nil_iff {network : Network} :
    network.problems = [] ↔ ∃ view, view? network = some view := by
  rw [Network.problems, List.flatMap_eq_nil_iff]
  simp only [templateProblems_eq_nil_iff, ← exists_mapM_iff]
  constructor
  · rintro ⟨templates, templatesSeen⟩
    refine ⟨⟨joined "\n\n" network.globalDeclarations, joined "\n" network.systemDeclarations,
      templates⟩, ?_⟩
    rw [view?, templatesSeen]
    rfl
  · rintro ⟨view, seen⟩
    exact ⟨_, mapM_eq_some_iff.mpr (of_view? seen).2.2⟩

end Problems

/-! ## Texts of lines -/

theorem textOfLines_cons (line : Line) (rest : List Line) :
    textOfLines (line :: rest) = line.text ++ "\n" ++ textOfLines rest := by
  simp [textOfLines, Text.ofLines, String.join_cons]

theorem textOfLines_append (first second : List Line) :
    textOfLines (first ++ second) = textOfLines first ++ textOfLines second := by
  simp [textOfLines, Text.ofLines, String.join_append]

/-- The lines of the system block are written like one line that holds them joined. -/
theorem textOfLines_contents (declarations : List Declaration) :
    textOfLines (declarations.map fun declaration => .content declaration.text) =
      textOfLines ((joined "\n" declarations).map Line.content).toList := by
  have one : ∀ text, textOfLines [.content text] = escapeText text ++ "\n" := by
    intro text
    rw [textOfLines_cons]
    exact String.append_empty
  induction declarations with
  | nil => rfl
  | cons declaration rest inductionHypothesis =>
    cases rest with
    | nil =>
      show textOfLines [.content declaration.text] =
        textOfLines [.content ("\n".intercalate [declaration.text])]
      rw [String.intercalate_singleton]
    | cons second others =>
      have split : "\n".intercalate (declaration.text :: second.text :: others.map Expression.text) =
          declaration.text ++ "\n" ++ "\n".intercalate (second.text :: others.map Expression.text) :=
        String.intercalate_cons_cons
      rw [List.map_cons, textOfLines_cons, inductionHypothesis]
      show escapeText declaration.text ++ "\n" ++ textOfLines [.content ("\n".intercalate
          (second.text :: others.map Expression.text))] =
        textOfLines [.content ("\n".intercalate
          (declaration.text :: second.text :: others.map Expression.text))]
      rw [one, one, split, escapeText_append, escapeText_append, escapeText_lineFeed]
      simp only [String.append_assoc]

theorem footerLines_eq (network : Network) :
    footerLines network = [.opening .system none]
      ++ network.systemDeclarations.map (fun declaration => .content declaration.text)
      ++ startedLines (network.templates.members.map Template.name) := by
  have started : (network.templates.members.map Template.name).zipIdx.map
      (fun numbered => (processName (numbered.2 + 1), numbered.1)) = processes network := by
    rw [List.zipIdx_map, List.map_map]
    rfl
  rw [footerLines, startedLines, started]
  simp only [List.append_assoc]

/-! ## Rendering what has a view -/

/-- What is reported of an edge: that its updates have no place in the document, if it has several. -/
def droppedUpdates (template : Template) (edge : Edge) : List Event :=
  match template.locationName? edge.source, template.locationName? edge.target with
  | some source, some target =>
    if 1 < edge.updates.length then
      [.updatesDropped source target template.name edge.updates.length]
    else []
  | _, _ => []

/-- What is reported of the edges of a template. -/
def templateDroppedUpdates (template : Template) : List Event :=
  template.edges.members.flatMap (droppedUpdates template)

/-- What is reported of the edges of a network. -/
def networkDroppedUpdates (network : Network) : List Event :=
  network.templates.members.flatMap templateDroppedUpdates

theorem edgeLines_of_view {template : Template} {edge : Edge} {view : EdgeView}
    (seen : edgeView? template edge = some view) :
    edgeLines template edge = ⟨droppedUpdates template edge, .ok view.lines⟩ := by
  obtain ⟨source, target, guard, update⟩ := of_edgeView? seen
  have lines : transitionLines edge view.source view.target = view.lines := by
    rw [transitionLines_eq, ← guard, ← update]
  rw [edgeLines, droppedUpdates, source, target]
  by_cases several : 1 < edge.updates.length
  · simp only [several, if_true, ← lines]
    rfl
  · simp only [several, if_false, ← lines]
    rfl

theorem edgesLines_of_views {template : Template} {edges : List Edge} {views : List EdgeView}
    (seen : List.Forall₂ (fun edge view => edgeView? template edge = some view) edges views) :
    edgesLines template edges =
      ⟨edges.flatMap (droppedUpdates template), .ok (views.flatMap EdgeView.lines)⟩ := by
  induction seen with
  | nil => rfl
  | cons viewed _ inductionHypothesis =>
    rw [edgesLines, edgeLines_of_view viewed, Journaled.ok_bind, inductionHypothesis, Journaled.ok_bind,
      List.flatMap_cons, List.flatMap_cons]
    simp [pure]

theorem templateLines_of_view {template : Template} {view : TemplateView}
    (seen : templateView? template = some view) :
    templateLines template = ⟨templateDroppedUpdates template, .ok view.lines⟩ := by
  obtain ⟨name, declarations, locations, initial, edges⟩ := of_templateView? seen
  rw [templateLines, initial]
  simp only [edgesLines_of_views edges, Journaled.ok_bind, TemplateView.lines, name, declarations, locations,
    List.flatMap_map, declarationLines_eq, templateDroppedUpdates, pure, List.append_nil]
  rfl

theorem templatesLines_of_views {templates : List Template} {views : List TemplateView}
    (seen : List.Forall₂ (fun template view => templateView? template = some view) templates views) :
    templatesLines templates =
      ⟨templates.flatMap templateDroppedUpdates, .ok (views.flatMap TemplateView.lines)⟩ := by
  induction seen with
  | nil => rfl
  | cons viewed _ inductionHypothesis =>
    rw [templatesLines, templateLines_of_view viewed, Journaled.ok_bind, inductionHypothesis, Journaled.ok_bind,
      List.flatMap_cons, List.flatMap_cons]
    simp [pure]

/-- A network with a view is rendered as the text of the lines for its view, with a report for each edge
whose updates are dropped. -/
theorem render_of_view {network : Network} {view : View} (seen : view? network = some view) :
    render network = ⟨networkDroppedUpdates network, .ok (textOfLines view.lines)⟩ := by
  have complete : network.problems = [] := problems_eq_nil_iff.mpr ⟨view, seen⟩
  obtain ⟨globals, systems, templates⟩ := of_view? seen
  have text : textOfLines (headerLines network ++ view.templates.flatMap TemplateView.lines
      ++ footerLines network) = textOfLines view.lines := by
    rw [headerLines, declarationLines_eq, footerLines_eq, View.lines, names_of_views templates, globals,
      systems]
    simp only [textOfLines_append, textOfLines_contents, String.append_assoc]
  rw [render, written, documentLines]
  simp only [complete, List.isEmpty_nil, if_true, templatesLines_of_views templates, Journaled.ok_bind, pure,
    List.append_nil, text, networkDroppedUpdates]

/-- A network with problems is refused with all of them, and nothing is reported of it. -/
theorem render_of_problems {network : Network} (incomplete : network.problems ≠ []) :
    render network = Journaled.fail (.incomplete network.problems) := by
  rw [render, written, documentLines]
  simp [incomplete, Journaled.fail, bind, Journaled.andThen]

/-- What is rendered has a view, and its text is the one of the lines for the view. -/
theorem view_of_render {network : Network} {text : String}
    (rendered : (render network).outcome = .ok text) :
    ∃ view, view? network = some view ∧ text = textOfLines view.lines := by
  by_cases complete : network.problems = []
  · obtain ⟨view, seen⟩ := problems_eq_nil_iff.mp complete
    rw [render_of_view seen] at rendered
    exact ⟨view, seen, (Except.ok.inj rendered).symm⟩
  · rw [render_of_problems complete] at rendered
    cases rendered

end TraceAutomata.Xml
