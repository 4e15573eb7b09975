import Mathlib.Algebra.GroupWithZero.Nat
import TraceAutomata.Proofs.Document.Spelling
import TraceAutomata.Proofs.Xml.Rendering

/-!
# Validation and rendering

The problems of a network are found by following identifiers, and a template is rendered by looking up names.
Both come to the same: the problems of an edge or a template are none exactly when its lines are written
(`edgeLines_succeeds_iff`, `templateLines_succeeds_iff`), whatever identifiers there are. A document is refused
beforehand if there are problems, so no error comes up in the middle of it.

`length_problems` counts the problems: one for each template without an initial location of its own, and one for
each end of an edge that is at no location of the template. They are the same whatever the texts are
(`problems_map`), and they are put in words unless a number in them has too many digits (`Problem.spelled_wording`).
-/

namespace TraceAutomata

/-! ## Counting problems -/

section Counts

variable {Content Count : Type}

/-- A reference is set, and it is the number of one of the template's own locations. -/
def Template.refers (template : Template Content) (reference : Option Int) : Bool :=
  reference.any fun wanted => template.locations.identifiers.contains wanted

/-- How many ends of edges are unset or at no location of the template. -/
def Template.brokenEnds (template : Template Content) : Nat :=
  (template.edges.members.flatMap fun edge => [edge.source, edge.target]).countP fun reference =>
    !template.refers reference

/-- How many templates have an initial location that is unset or not one of their own. -/
def Network.brokenInitials (network : Network Content Count) : Nat :=
  network.templates.members.countP fun template => !template.refers template.initial

/-- How many ends of edges in all templates are unset or at no location of their template. -/
def Network.brokenEnds (network : Network Content Count) : Nat :=
  (network.templates.members.map Template.brokenEnds).sum

end Counts

section Lengths

variable {Content Count : Type} {template : Template Content}

/-- An identifier is one of the template's own when it is taken. -/
theorem Template.refers_some (wanted : Int) :
    template.refers (some wanted) = template.locations.contains wanted := by
  rw [refers, Option.any_some, Bool.eq_iff_iff, List.contains_iff_mem, Registry.contains_iff]

theorem Template.length_initialProblems :
    template.initialProblems.length = if template.refers template.initial then 0 else 1 := by
  unfold initialProblems
  cases template.initial with
  | none => rfl
  | some wanted => cases taken : template.locations.contains wanted <;> simp [refers_some, taken]

theorem Template.length_endProblems {edge : Edge Content} {which : EdgeEnd} :
    (template.endProblems edge which).length = if template.refers (edge.reference which) then 0 else 1 := by
  unfold endProblems
  cases edge.reference which with
  | none => rfl
  | some wanted => cases taken : template.locations.contains wanted <;> simp [refers_some, taken]

/-- An edge has one problem for each of its ends that is broken. -/
theorem Template.length_edgeProblems (edge : Edge Content) :
    (template.edgeProblems edge).length =
      [edge.source, edge.target].countP fun reference => !template.refers reference := by
  rw [edgeProblems, List.length_append, length_endProblems, length_endProblems]
  show (if template.refers edge.source then 0 else 1) + (if template.refers edge.target then 0 else 1) = _
  cases source : template.refers edge.source <;> cases target : template.refers edge.target <;>
    simp [source, target]

/-- A template has one problem if its initial location is broken, and one for each broken end. -/
theorem Template.length_problems :
    template.problems.length =
      (if template.refers template.initial then 0 else 1) + template.brokenEnds := by
  rw [problems, List.length_append, length_initialProblems, brokenEnds, List.length_flatMap,
    List.countP_flatMap]
  simp only [length_edgeProblems, Function.comp_def]

/-- The problems of a network are its broken initial locations and its broken ends. -/
theorem Network.length_problems (network : Network Content Count) :
    network.problems.length = network.brokenInitials + network.brokenEnds := by
  unfold problems brokenInitials brokenEnds
  induction network.templates.members with
  | nil => rfl
  | cons template rest inductionHypothesis =>
    rw [List.flatMap_cons, List.length_append, inductionHypothesis, Template.length_problems,
      List.countP_cons, List.map_cons, List.sum_cons]
    cases template.refers template.initial <;> simp <;> omega

end Lengths

/-! ## Changing texts -/

section Map

variable {Content Other Count OtherCount : Type} {template : Template Content} (change : Content → Other)

/-- A reference finds the same location, with the changed texts. -/
theorem Template.location?_map (wanted : Int) :
    (template.map change).location? wanted = (template.location? wanted).map (Location.map change) := by
  show (template.locations.members.map (Location.map change)).find? _ = _
  rw [List.find?_map]
  rfl

/-- Changed texts have no bearing on which identifiers are taken. -/
theorem Template.contains_map (wanted : Int) :
    (template.map change).locations.contains wanted = template.locations.contains wanted := by
  show ((template.map change).location? wanted).isSome = _
  rw [location?_map, Option.isSome_map]
  rfl

theorem Template.initialProblems_map :
    (template.map change).initialProblems = template.initialProblems.map (Problem.map change) := by
  have same : (template.map change).initial = template.initial := rfl
  unfold initialProblems
  rw [same]
  cases template.initial with
  | none => rfl
  | some wanted =>
    dsimp only
    rw [contains_map]
    cases template.locations.contains wanted <;> rfl

theorem Template.endProblems_map (edge : Edge Content) (which : EdgeEnd) :
    (template.map change).endProblems (edge.map change) which =
      (template.endProblems edge which).map (Problem.map change) := by
  have same : (edge.map change).reference which = edge.reference which := by cases which <;> rfl
  unfold endProblems
  rw [same]
  cases edge.reference which with
  | none => rfl
  | some wanted =>
    dsimp only
    rw [contains_map]
    cases template.locations.contains wanted <;> rfl

theorem Template.edgeProblems_map (edge : Edge Content) :
    (template.map change).edgeProblems (edge.map change) =
      (template.edgeProblems edge).map (Problem.map change) := by
  rw [edgeProblems, edgeProblems, endProblems_map, endProblems_map, List.map_append]

theorem Template.problems_map :
    (template.map change).problems = template.problems.map (Problem.map change) := by
  have edges : (template.map change).edges.members.flatMap (template.map change).edgeProblems =
      (template.edges.members.flatMap template.edgeProblems).map (Problem.map change) := by
    rw [List.map_flatMap]
    show (template.edges.members.map (Edge.map change)).flatMap _ = _
    rw [List.flatMap_map]
    simp only [edgeProblems_map]
  rw [problems, problems, initialProblems_map, edges, List.map_append]

variable (recount : Count → OtherCount) {network : Network Content Count}

/-- Changed texts change nothing about the problems but the names in them. -/
theorem Network.problems_map :
    (network.map change recount).problems = network.problems.map (Problem.map change) := by
  show (network.templates.members.map (Template.map change)).flatMap _ = _
  rw [problems, List.flatMap_map, List.map_flatMap]
  simp only [Template.problems_map]

end Map

/-! ## Problems in words -/

namespace Problem

variable {Content : Type} {written : Content → Except ValueFault String}

/-- The name in a problem. -/
def name : Problem Content → Content
  | .noInitial template => template
  | .foreignInitial template _ => template
  | .openEnd _ template _ => template
  | .foreignEnd _ template _ _ => template

/-- The numbers that the wording of a problem shows. -/
def numbers : Problem Content → List Int
  | .noInitial _ => []
  | .foreignInitial _ location => [location]
  | .openEnd edge _ _ => [edge]
  | .foreignEnd edge _ _ location => [edge, location]

/-- The wording of a problem shows its numbers, and nothing else in it can be too long. -/
theorem spelled_wording {problem : Problem Content} (named : Spelled [] (written problem.name)) :
    Spelled problem.numbers (problem.wording written) := by
  cases problem with
  | noInitial template => exact named.bind fun _ => .ok _
  | foreignInitial template location =>
    exact named.bind fun _ => (Spelled.integerText location).bind fun _ => .ok _
  | openEnd edge template which =>
    exact (Spelled.integerText edge).bind fun _ => named.bind fun _ => .ok _
  | foreignEnd edge template which location =>
    exact (Spelled.integerText edge).bind fun _ => named.bind fun _ =>
      (Spelled.integerText location).bind fun _ => .ok _

end Problem

/-- The problems of a template have its name. -/
theorem Template.name_of_problems {Content : Type} {template : Template Content} {problem : Problem Content}
    (among : problem ∈ template.problems) : problem.name = template.name := by
  have ofEnd (edge : Edge Content) (which : EdgeEnd) (here : problem ∈ template.endProblems edge which) :
      problem.name = template.name := by
    unfold endProblems at here
    split at here
    · obtain rfl := List.mem_singleton.mp here
      rfl
    · split at here
      · cases here
      · obtain rfl := List.mem_singleton.mp here
        rfl
  obtain initial | onEdges := List.mem_append.mp among
  · unfold initialProblems at initial
    split at initial
    · obtain rfl := List.mem_singleton.mp initial
      rfl
    · split at initial
      · cases initial
      · obtain rfl := List.mem_singleton.mp initial
        rfl
  · obtain ⟨edge, -, onEdge⟩ := List.mem_flatMap.mp onEdges
    exact (List.mem_append.mp onEdge).elim (ofEnd edge .source) (ofEnd edge .target)

namespace Xml

open Journaled

variable {template : Template} {network : Network}

/-! ## Lines are written exactly where there are no problems -/

theorem edgeLines_succeeds_iff {edge : Edge} :
    (edgeLines template edge).Succeeds ↔ template.edgeProblems edge = [] := by
  rw [edgeProblems_eq_nil_iff]
  constructor
  · intro succeeds
    rw [edgeLines] at succeeds
    cases source : template.locationName? edge.source with
    | none => simp [source] at succeeds
    | some sourceName =>
      cases target : template.locationName? edge.target with
      | none => simp [source, target] at succeeds
      | some targetName =>
        refine ⟨⟨sourceName, targetName, edge.guard.map Expression.text, onlyUpdate? edge⟩, ?_⟩
        rw [edgeView?, source, target]
        rfl
  · rintro ⟨view, seen⟩
    exact ⟨_, congrArg Journaled.outcome (edgeLines_of_view seen)⟩

theorem edgesLines_succeeds_iff {edges : List Edge} :
    (edgesLines template edges).Succeeds ↔ ∀ edge ∈ edges, template.edgeProblems edge = [] := by
  induction edges with
  | nil => simp [edgesLines]
  | cons edge rest inductionHypothesis =>
    rw [edgesLines, succeeds_bind_iff, List.forall_mem_cons, ← edgeLines_succeeds_iff,
      ← inductionHypothesis]
    simp only [succeeds_bind_pure_iff, exists_and_right]
    rfl

theorem templateLines_succeeds_iff :
    (templateLines template).Succeeds ↔ template.problems = [] := by
  rw [Template.problems, List.append_eq_nil_iff, initialProblems_eq_nil_iff, List.flatMap_eq_nil_iff,
    ← edgesLines_succeeds_iff, templateLines]
  cases template.locationName? template.initial with
  | none => simp
  | some initial => simp

/-- A template is rendered exactly when it has no problems. -/
theorem renderTemplate_succeeds_iff :
    (renderTemplate template).Succeeds ↔ template.problems = [] := by
  rw [renderTemplate, written, succeeds_bind_pure_iff, templateLines_succeeds_iff]

/-- A network is rendered exactly when it has no problems. -/
theorem render_succeeds_iff : (render network).Succeeds ↔ network.problems = [] := by
  rw [problems_eq_nil_iff]
  constructor
  · rintro ⟨text, rendered⟩
    obtain ⟨view, seen, _⟩ := view_of_render rendered
    exact ⟨view, seen⟩
  · rintro ⟨view, seen⟩
    exact ⟨_, congrArg Journaled.outcome (render_of_view seen)⟩

end Xml

end TraceAutomata
