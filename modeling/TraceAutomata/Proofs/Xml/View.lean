import Mathlib.Data.List.Forall2
import TraceAutomata.Proofs.Xml.Legible
import TraceAutomata.Xml.Document

/-!
# What a document shows

The view of a network is what its document is written from: texts in the order of the network, and names
of locations in place of references. `view?` finds it, unless a reference names nothing, and `View.lines`
are the lines for a view. Identifiers and owners are not part of a view.
-/

namespace TraceAutomata.Xml

/-! ## Views -/

/-- The texts of declarations with a separator between them, unless there are no declarations. -/
def joined (separator : String) (declarations : List Declaration) : Option String :=
  if declarations.isEmpty then none
  else some (separator.intercalate (declarations.map Expression.text))

/-- What a document shows of a location. -/
structure LocationView where
  name : String
  comment : Option String
  deriving DecidableEq, Repr

/-- What a document shows of an edge. -/
structure EdgeView where
  source : String
  target : String
  guard : Option String
  update : Option String
  deriving DecidableEq, Repr

/-- What a document shows of a template. -/
structure TemplateView where
  name : String
  declarations : Option String
  locations : List LocationView
  initial : String
  edges : List EdgeView
  deriving DecidableEq, Repr

/-- What a document shows of a network. -/
structure View where
  globalDeclarations : Option String
  systemDeclarations : Option String
  templates : List TemplateView
  deriving DecidableEq, Repr

/-- The view of a location. -/
def locationView (location : Location) : LocationView :=
  { name := location.name, comment := location.comment }

/-- The text of an edge's update, if the edge has exactly one. -/
def onlyUpdate? (edge : Edge) : Option String :=
  match edge.updates with
  | [update] => some update.text
  | _ => none

/-- The view of an edge of a template, if both its ends name locations. -/
def edgeView? (template : Template) (edge : Edge) : Option EdgeView := do
  let source ← template.locationName? edge.source
  let target ← template.locationName? edge.target
  return { source, target, guard := edge.guard.map Expression.text, update := onlyUpdate? edge }

/-- The view of a template, if all its references name locations. -/
def templateView? (template : Template) : Option TemplateView := do
  let initial ← template.locationName? template.initial
  let edges ← template.edges.members.mapM (edgeView? template)
  return {
    name := template.name
    declarations := joined "\n\n" template.declarations
    locations := template.locations.members.map locationView
    initial, edges }

/-- The view of a network, if all its references name locations. -/
def view? (network : Network) : Option View := do
  let templates ← network.templates.members.mapM templateView?
  return {
    globalDeclarations := joined "\n\n" network.globalDeclarations
    systemDeclarations := joined "\n" network.systemDeclarations
    templates }

/-! ## Lines of views -/

/-- The lines of a block of joined declarations. -/
def blockLines : Option String → List Line
  | none => [.whole .declaration none ""]
  | some body => [.opening .declaration none, .content body, .closing .declaration]

/-- The lines for an optional text under a keyword. -/
def labelLines (keyword : String) (held : Option String) : List Line :=
  (held.map (labelLine keyword)).toList

/-- The lines for a location. -/
def LocationView.lines (location : LocationView) : List Line :=
  [.opening .location (some ⟨.id, location.name⟩), .whole .name none location.name]
    ++ labelLines commentKeyword location.comment ++ [.closing .location]

/-- The lines for an edge. -/
def EdgeView.lines (edge : EdgeView) : List Line :=
  [.opening .transition none, referenceLine .source edge.source, referenceLine .target edge.target]
    ++ labelLines Role.guard.keyword edge.guard ++ labelLines Role.update.keyword edge.update
    ++ [.closing .transition]

/-- The lines for a template. -/
def TemplateView.lines (template : TemplateView) : List Line :=
  [.opening .template none, .whole .name none template.name] ++ blockLines template.declarations
    ++ template.locations.flatMap LocationView.lines ++ [referenceLine .initial template.initial]
    ++ template.edges.flatMap EdgeView.lines ++ [.closing .template]

/-- The lines that instantiate and start the processes of templates with such names, up to the end of the
document. -/
def startedLines (names : List String) : List Line :=
  let started := names.zipIdx.map fun numbered => (processName (numbered.2 + 1), numbered.1)
  started.map (fun process => .content (processText process))
    ++ [.content "system ", .content (", ".intercalate (started.map Prod.fst) ++ ";"),
      .closing .system, .closing .network]

/-- The lines for a network. The joined declarations of the system block count as one line. -/
def View.lines (view : View) : List Line :=
  [.verbatim prolog, .verbatim documentType, .opening .network none]
    ++ blockLines view.globalDeclarations ++ view.templates.flatMap TemplateView.lines
    ++ [.opening .system none] ++ (view.systemDeclarations.map Line.content).toList
    ++ startedLines (view.templates.map TemplateView.name)

/-! ## What views show -/

/-- Views of members are taken member by member. -/
theorem mapM_eq_some_iff {α β : Type} {look : α → Option β} {members : List α} {views : List β} :
    members.mapM look = some views ↔
      List.Forall₂ (fun member view => look member = some view) members views := by
  induction members generalizing views with
  | nil => simp [eq_comm]
  | cons member rest inductionHypothesis =>
    rw [List.mapM_cons, List.forall₂_cons_left_iff]
    constructor
    · intro seen
      obtain ⟨view, viewed, afterView⟩ := Option.bind_eq_some_iff.mp seen
      obtain ⟨others, othersViewed, afterOthers⟩ := Option.bind_eq_some_iff.mp afterView
      exact ⟨view, others, viewed, inductionHypothesis.mp othersViewed, (Option.some.inj afterOthers).symm⟩
    · rintro ⟨view, others, viewed, othersViewed, rfl⟩
      rw [viewed, inductionHypothesis.mpr othersViewed]
      rfl

/-- Members have views together exactly when each has one. -/
theorem exists_mapM_iff {α β : Type} {look : α → Option β} {members : List α} :
    (∃ views, members.mapM look = some views) ↔ ∀ member ∈ members, ∃ view, look member = some view := by
  induction members with
  | nil => simp
  | cons member rest inductionHypothesis =>
    simp only [mapM_eq_some_iff] at inductionHypothesis
    simp only [mapM_eq_some_iff, List.forall₂_cons_left_iff, List.forall_mem_cons, ← inductionHypothesis]
    constructor
    · rintro ⟨_, view, others, viewed, othersViewed, rfl⟩
      exact ⟨⟨view, viewed⟩, others, othersViewed⟩
    · rintro ⟨⟨view, viewed⟩, others, othersViewed⟩
      exact ⟨_, view, others, viewed, othersViewed, rfl⟩

/-- What the view of an edge shows. -/
theorem of_edgeView? {template : Template} {edge : Edge} {view : EdgeView}
    (seen : edgeView? template edge = some view) :
    template.locationName? edge.source = some view.source ∧
      template.locationName? edge.target = some view.target ∧
      view.guard = edge.guard.map Expression.text ∧ view.update = onlyUpdate? edge := by
  obtain ⟨source, sourceNamed, afterSource⟩ := Option.bind_eq_some_iff.mp seen
  obtain ⟨target, targetNamed, afterTarget⟩ := Option.bind_eq_some_iff.mp afterSource
  obtain rfl := Option.some.inj afterTarget
  exact ⟨sourceNamed, targetNamed, rfl, rfl⟩

/-- What the view of a template shows. -/
theorem of_templateView? {template : Template} {view : TemplateView}
    (seen : templateView? template = some view) :
    view.name = template.name ∧ view.declarations = joined "\n\n" template.declarations ∧
      view.locations = template.locations.members.map locationView ∧
      template.locationName? template.initial = some view.initial ∧
      List.Forall₂ (fun edge shown => edgeView? template edge = some shown) template.edges.members
        view.edges := by
  obtain ⟨initial, initialNamed, afterInitial⟩ := Option.bind_eq_some_iff.mp seen
  obtain ⟨edges, edgesSeen, afterEdges⟩ := Option.bind_eq_some_iff.mp afterInitial
  obtain rfl := Option.some.inj afterEdges
  exact ⟨rfl, rfl, rfl, initialNamed, mapM_eq_some_iff.mp edgesSeen⟩

/-- What the view of a network shows. -/
theorem of_view? {network : Network} {view : View} (seen : view? network = some view) :
    view.globalDeclarations = joined "\n\n" network.globalDeclarations ∧
      view.systemDeclarations = joined "\n" network.systemDeclarations ∧
      List.Forall₂ (fun template shown => templateView? template = some shown)
        network.templates.members view.templates := by
  obtain ⟨views, viewsSeen, after⟩ := Option.bind_eq_some_iff.mp seen
  obtain rfl := Option.some.inj after
  exact ⟨rfl, rfl, mapM_eq_some_iff.mp viewsSeen⟩

/-- A view of a template has its name. -/
theorem names_of_views {templates : List Template} {views : List TemplateView}
    (seen : List.Forall₂ (fun template shown => templateView? template = some shown) templates views) :
    views.map TemplateView.name = templates.map Template.name := by
  induction seen with
  | nil => rfl
  | cons viewed _ inductionHypothesis =>
    rw [List.map_cons, List.map_cons, (of_templateView? viewed).1, inductionHypothesis]

end TraceAutomata.Xml
