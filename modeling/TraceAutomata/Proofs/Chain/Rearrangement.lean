import Mathlib.Logic.Relation
import TraceAutomata.Proofs.Chain.Transcript

/-!
# Rearranging a trace

A trace is read through two kinds of sequences: the declarations of each scope, and the tests and
assignments together, which `steps` has. `SameStreams` says that two traces agree in these, and
`SameStreams.comeToTheSame` that their networks and documents are then equal: where the declarations stand
among the other statements does not show.

`Rearrangement` lists what may be done to a trace on the way: declarations move past tests, assignments
and the declarations of other scopes, statements are split or put together, and statements without
expressions come and go.
-/

namespace TraceAutomata.Chain

open Traversal

/-! ## Tests and assignments -/

/-- A test or an assignment with the comment that its location gets, which is none when it is empty.
Declarations add nothing to a chain. -/
def Occurrence.step? : Occurrence → Option Occurrence
  | declaration _ => none
  | test condition => some (test condition)
  | assignment ⟨update, comment⟩ =>
    some (assignment ⟨update, comment.filter fun text => !text.isEmpty⟩)

/-- The tests and the assignments of a trace in one sequence. A test guards the assignment that comes after
it, so the order between the two belongs to the sequence. -/
def steps (statements : List Statement) : List Occurrence :=
  (occurrences statements).filterMap Occurrence.step?

/-- A link with the comment that its location gets. -/
def shownLink (link : Link) : Link :=
  { link with comment := link.shownComment? }

theorem shownComment?_shownLink (link : Link) : (shownLink link).shownComment? = link.shownComment? := by
  obtain ⟨guard, update, comment⟩ := link
  cases comment with
  | none => rfl
  | some text => simp [shownLink, Link.shownComment?]

/-- The links of a trace come from its tests and assignments. -/
theorem map_shownLink_linksFrom (tests : List String) (sequence : List Occurrence) :
    (linksFrom tests sequence).map shownLink = linksFrom tests (sequence.filterMap Occurrence.step?) := by
  induction sequence generalizing tests with
  | nil =>
    by_cases none : tests = []
    · simp [linksFrom, none]
    · simp [linksFrom, none, shownLink, Link.shownComment?]
  | cons occurrence rest inductionHypothesis =>
    cases occurrence with
    | declaration text => exact inductionHypothesis tests
    | test condition => exact inductionHypothesis (tests ++ [condition])
    | assignment assigned =>
      rw [linksFrom, List.map_cons, inductionHypothesis []]
      rfl

/-- What is made of links one by one, without their comments as far as no location gets them. -/
theorem mapIdx_map_shownLink {Made : Type} {make : Nat → Link → Made}
    (blind : ∀ index link, make index (shownLink link) = make index link) (links : List Link) :
    (links.map shownLink).mapIdx make = links.mapIdx make := by
  apply List.ext_getElem?
  intro index
  rw [List.getElem?_mapIdx, List.getElem?_mapIdx, List.getElem?_map, Option.map_map]
  exact congrArg (Option.map · links[index]?) (funext (blind index))

/-- A chain shows of the comments of its links only those that locations get. -/
theorem standing_map_shownLink (config : Config) (name : String)
    (declared : DeclarationScope → List Declaration) (links : List Link) :
    standing config name declared (links.map shownLink) = standing config name declared links := by
  have locations : locationsOf config (links.map shownLink) = locationsOf config links := by
    rw [locationsOf, locationsOf, mapIdx_map_shownLink]
    intro index link
    rw [locationOf, locationOf, shownComment?_shownLink]
  have edges : (links.map shownLink).mapIdx edgeOf = links.mapIdx edgeOf :=
    mapIdx_map_shownLink (fun _ _ => rfl) links
  rw [standing, locations, edges, List.length_map, standing]

/-! ## Traces with the same streams -/

/-- Two traces have the same declarations in each scope, and the same tests and assignments. -/
structure SameStreams (left right : List Statement) : Prop where
  declared : ∀ scope, declarations left scope = declarations right scope
  stepped : steps left = steps right

variable {left right : List Statement}

/-- The builder after a trace depends on its declarations in each scope and on its tests and
assignments. -/
theorem standing_eq_of_sameStreams (config : Config) (name : String) (same : SameStreams left right) :
    standing config name (declarations left) (links left) =
      standing config name (declarations right) (links right) := by
  have linked : (links left).map shownLink = (links right).map shownLink := by
    rw [links, links, map_shownLink_linksFrom, map_shownLink_linksFrom]
    exact congrArg (linksFrom []) same.stepped
  have declared : declarations left = declarations right := funext same.declared
  rw [← standing_map_shownLink, linked, standing_map_shownLink, declared]

/-- Two traces come to the same: under all settings and names, and on any builders, they leave one network,
which is rendered as one document. -/
def ComeToTheSame (left right : List Statement) : Prop :=
  ∀ config name builder other, ∃ network after document,
    (build config name left builder).outcome = .ok (network, after) ∧
      (build config name right other).outcome = .ok (network, after) ∧
      Xml.render network = ⟨[], .ok document⟩

theorem SameStreams.comeToTheSame (same : SameStreams left right) : ComeToTheSame left right := by
  intro config name builder other
  obtain ⟨document, rendered, -⟩ := render_network config name left
  have builders := standing_eq_of_sameStreams config name same
  rw [standing_links, standing_links] at builders
  have networks := congrArg Builder.network builders
  refine ⟨_, _, document, build_outcome config name left builder, ?_, rendered⟩
  rw [build_outcome, builders]
  exact congrArg (fun network => Except.ok (network, _)) networks.symm

/-! ## Rearrangements -/

/-- What may be done to statements that stand next to each other. -/
inductive Rule : List Statement → List Statement → Prop
  /-- A declaration moves past a test or an assignment. -/
  | pass {declaration other : Statement} (declares : declaration.kind = .declaration)
      (steps : other.kind ≠ .declaration) : Rule [declaration, other] [other, declaration]
  /-- Declarations of different scopes change places. -/
  | exchange {first second : Statement} (declares : first.kind = .declaration)
      (declaresToo : second.kind = .declaration) (apart : first.scope ≠ second.scope) :
      Rule [first, second] [second, first]
  /-- A statement is split in two. The comment of an assignment stays with the first part, which has an
  expression for it. -/
  | split {kind : StatementKind} {scope : DeclarationScope} {front back : List String}
      {comment later : Option String} (first : kind = .assignment → front ≠ [])
      (second : kind = .assignment → later = none) :
      Rule [⟨kind, front ++ back, comment, scope⟩] [⟨kind, front, comment, scope⟩, ⟨kind, back, later, scope⟩]
  /-- A statement without expressions is put in. -/
  | idle {statement : Statement} (silent : statement.expressions = []) : Rule [] [statement]

/-- One rule applied somewhere in a trace. -/
inductive Rearrangement : List Statement → List Statement → Prop
  | within {part other : List Statement} (before after : List Statement) (rule : Rule part other) :
      Rearrangement (before ++ (part ++ after)) (before ++ (other ++ after))

theorem declarations_append (left right : List Statement) (scope : DeclarationScope) :
    declarations (left ++ right) scope = declarations left scope ++ declarations right scope := by
  simp [declarations]

theorem steps_append (left right : List Statement) : steps (left ++ right) = steps left ++ steps right := by
  simp [steps, occurrences]

theorem declarations_pair (first second : Statement) (scope : DeclarationScope) :
    declarations [first, second] scope = declarations [first] scope ++ declarations [second] scope :=
  declarations_append [first] [second] scope

theorem steps_pair (first second : Statement) : steps [first, second] = steps [first] ++ steps [second] :=
  steps_append [first] [second]

theorem steps_of_declaration {statement : Statement} (declares : statement.kind = .declaration) :
    steps [statement] = [] := by
  simp [steps, occurrences, Occurrence.ofStatement, declares, Occurrence.step?]

/-- Only declarations are declared, each in its own scope. -/
theorem declarations_of_other {statement : Statement} {scope : DeclarationScope}
    (other : ¬(statement.kind = .declaration ∧ statement.scope = scope)) :
    declarations [statement] scope = [] := by
  rw [declarations_singleton, if_neg other]

theorem SameStreams.within (same : SameStreams left right) (before after : List Statement) :
    SameStreams (before ++ (left ++ after)) (before ++ (right ++ after)) where
  declared scope := by simp only [declarations_append, same.declared scope]
  stepped := by simp only [steps_append, same.stepped]

/-- The steps of an assignment whose first expression is known to be there. -/
theorem steps_assignment (first : String) (rest : List String) (comment : Option String)
    (scope : DeclarationScope) :
    steps [⟨.assignment, first :: rest, comment, scope⟩] =
      .assignment ⟨first, comment.filter fun text => !text.isEmpty⟩ ::
        rest.map fun update => .assignment ⟨update, none⟩ := by
  simp [steps, occurrences, Occurrence.ofStatement, Occurrence.step?, Function.comp_def]

/-- The steps of an assignment without a comment. -/
theorem steps_assignment_none (updates : List String) (scope : DeclarationScope) :
    steps [⟨.assignment, updates, none, scope⟩] = updates.map fun update => .assignment ⟨update, none⟩ := by
  cases updates with
  | nil => rfl
  | cons first rest => exact steps_assignment first rest none scope

/-- Statements change places when no stream has expressions of both. -/
theorem sameStreams_of_apart {first second : Statement}
    (declared : ∀ scope, declarations [first] scope = [] ∨ declarations [second] scope = [])
    (stepped : steps [first] = [] ∨ steps [second] = []) : SameStreams [first, second] [second, first] := by
  have together : ∀ {α : Type} {left right : List α}, left = [] ∨ right = [] → left ++ right = right ++ left := by
    rintro α left right (rfl | rfl) <;> simp
  constructor
  · intro scope
    rw [declarations_pair, declarations_pair]
    exact together (declared scope)
  · rw [steps_pair, steps_pair]
    exact together stepped

/-- A split statement has the streams of its parts. -/
theorem sameStreams_of_split {kind : StatementKind} {scope : DeclarationScope} {front back : List String}
    {comment later : Option String} (first : kind = .assignment → front ≠ [])
    (second : kind = .assignment → later = none) :
    SameStreams [⟨kind, front ++ back, comment, scope⟩]
      [⟨kind, front, comment, scope⟩, ⟨kind, back, later, scope⟩] := by
  constructor
  · intro declaredScope
    simp only [declarations_pair, declarations_singleton]
    split
    · exact List.map_append
    · rfl
  · rw [steps_pair]
    cases kind with
    | declaration => rw [steps_of_declaration rfl, steps_of_declaration rfl, steps_of_declaration rfl]; rfl
    | test => simp [steps, occurrences, Occurrence.ofStatement, Function.comp_def, Occurrence.step?]
    | assignment =>
      obtain rfl := second rfl
      rcases List.exists_cons_of_ne_nil (first rfl) with ⟨text, rest, rfl⟩
      rw [List.cons_append, steps_assignment, steps_assignment, steps_assignment_none, List.map_append]
      rfl

/-- No rule changes a stream. -/
theorem sameStreams_of_rule (rule : Rule left right) : SameStreams left right := by
  cases rule with
  | pass declares steps =>
    apply sameStreams_of_apart
    · intro scope
      exact .inr (declarations_of_other fun both => steps both.1)
    · exact .inl (steps_of_declaration declares)
  | @exchange first second declares declaresToo apart =>
    apply sameStreams_of_apart
    · intro scope
      by_cases its : scope = first.scope
      · subst its
        exact .inr (declarations_of_other fun both => apart both.2.symm)
      · exact .inl (declarations_of_other fun both => its both.2.symm)
    · exact .inl (steps_of_declaration declares)
  | split first second => exact sameStreams_of_split first second
  | @idle statement silent =>
    constructor
    · intro scope
      rw [declarations_singleton, silent]
      split <;> rfl
    · obtain ⟨kind, expressions, comment, scope⟩ := statement
      obtain rfl : expressions = [] := silent
      cases kind <;> rfl

/-- However often a trace is rearranged, its streams stay the same. -/
theorem sameStreams_of_rearranged (rearranged : Relation.EqvGen Rearrangement left right) :
    SameStreams left right := by
  induction rearranged with
  | rel _ _ once =>
    obtain ⟨before, after, rule⟩ := once
    exact (sameStreams_of_rule rule).within before after
  | refl _ => exact ⟨fun _ => rfl, rfl⟩
  | symm _ _ _ inductionHypothesis =>
    exact ⟨fun scope => (inductionHypothesis.declared scope).symm, inductionHypothesis.stepped.symm⟩
  | trans _ _ _ _ _ first second =>
    exact ⟨fun scope => (first.declared scope).trans (second.declared scope),
      first.stepped.trans second.stepped⟩

/-! ## Routing -/

/-- The declarations of a network of one template stand where their scopes say: each list holds those of
its own scope, in the order of the trace. -/
structure RoutesDeclarations (statements : List Statement) (network : Network) : Prop where
  single : ∃ template, network.templates.members = [template] ∧
    template.declarations = declarations statements .localScope
  shared : network.globalDeclarations = declarations statements .globalScope
  system : network.systemDeclarations = declarations statements .systemScope

/-- Traces with the same declarations in each scope and the same tests and assignments come to the same, and
so do traces that are rearrangements of each other. The declarations of a network are those of the trace,
each in the list of its scope. -/
theorem declarations_routed :
    (∀ left right, SameStreams left right → ComeToTheSame left right) ∧
      (∀ left right, Relation.EqvGen Rearrangement left right → ComeToTheSame left right) ∧
      ∀ config name statements builder, ∃ network after,
        (build config name statements builder).outcome = .ok (network, after) ∧
          RoutesDeclarations statements network := by
  refine ⟨fun left right same => same.comeToTheSame,
    fun left right rearranged => (sameStreams_of_rearranged rearranged).comeToTheSame, ?_⟩
  intro config name statements builder
  exact ⟨_, _, build_outcome config name statements builder, ⟨_, rfl, rfl⟩, rfl, rfl⟩

/-- A declaration leaves its place between a test and the assignment that the test guards, and the tests and
the assignments are split. -/
theorem moved_and_split_come_to_the_same :
    let left : List Statement :=
      [⟨.test, ["x > 0", "y"], none, .localScope⟩, ⟨.declaration, ["int x"], none, .globalScope⟩,
        ⟨.assignment, ["x = 1", "y = 2"], some "both", .localScope⟩]
    let right : List Statement :=
      [⟨.declaration, ["int x"], some "", .globalScope⟩, ⟨.test, ["x > 0"], none, .localScope⟩,
        ⟨.test, ["y"], none, .localScope⟩, ⟨.assignment, ["x = 1"], some "both", .localScope⟩,
        ⟨.assignment, ["y = 2"], some "", .systemScope⟩]
    SameStreams left right ∧ ComeToTheSame left right := by
  intro left right
  have same : SameStreams left right := by
    constructor
    · intro scope
      cases scope <;> rfl
    · rfl
  exact ⟨same, declarations_routed.1 left right same⟩

/-- A test and an assignment do not change places. -/
example :
    network {} "Trace" [⟨.test, ["x"], none, .localScope⟩, ⟨.assignment, ["y"], none, .localScope⟩] ≠
      network {} "Trace" [⟨.assignment, ["y"], none, .localScope⟩, ⟨.test, ["x"], none, .localScope⟩] := by
  decide

end TraceAutomata.Chain
