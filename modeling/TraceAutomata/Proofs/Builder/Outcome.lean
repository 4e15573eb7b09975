import TraceAutomata.Proofs.Registry
import TraceAutomata.Builder

/-!
# Outcomes of builder commands

A command reports events and then either fails or hands on a builder. The equations here give the
outcome alone, as a function of what its handles name: `Builder.owner?` and `Builder.edgeNamed?` are the
look-ups, and `withTemplate`, `withLocation` and `withEdge` the ways in which a builder changes.
-/

namespace TraceAutomata

namespace Builder

/-- The template that a handle names, if it names one. -/
def owner? (builder : Builder) (handle : Option TemplateHandle) : Option Template :=
  handle.bind fun named => builder.network.template? named.id

/-- The edge that a handle names, with the template in which it was found. -/
def edgeNamed? (builder : Builder) (handle : Option EdgeHandle) : Option (Template × Edge) := do
  let named ← handle
  let template ← builder.network.template? named.template
  let edge ← template.edge? named.id
  return (template, edge)

/-- The builder with a template under its identifier. -/
def withTemplate (builder : Builder) (template : Template) : Builder :=
  { builder with network :=
    { builder.network with templates := builder.network.templates.put template } }

/-- The builder with a location in one of its templates. -/
def withLocation (builder : Builder) (owner : Template) (location : Location) : Builder :=
  builder.withTemplate { owner with locations := owner.locations.put location }

/-- The builder with an edge in one of its templates. -/
def withEdge (builder : Builder) (owner : Template) (edge : Edge) : Builder :=
  builder.withTemplate { owner with edges := owner.edges.put edge }

/-- What a template handle names is stored under the identifier of the handle. -/
theorem template?_of_owner? {builder : Builder} {handle : Option TemplateHandle} {owner : Template}
    (known : builder.owner? handle = some owner) :
    builder.network.template? owner.id = some owner := by
  obtain ⟨named, _, found⟩ := Option.bind_eq_some_iff.mp known
  have same : owner.id = named.id := Registry.identifier_of_find? found
  rw [same]
  exact found

/-- What an edge handle names is an edge of a template of the network. -/
theorem found_of_edgeNamed? {builder : Builder} {handle : Option EdgeHandle} {owner : Template}
    {edge : Edge} (known : builder.edgeNamed? handle = some (owner, edge)) :
    builder.network.template? owner.id = some owner ∧ owner.edge? edge.id = some edge := by
  obtain ⟨named, _, afterHandle⟩ := Option.bind_eq_some_iff.mp known
  obtain ⟨template, foundTemplate, afterTemplate⟩ := Option.bind_eq_some_iff.mp afterHandle
  obtain ⟨present, foundEdge, answered⟩ := Option.bind_eq_some_iff.mp afterTemplate
  cases answered
  have sameTemplate : owner.id = named.template := Registry.identifier_of_find? foundTemplate
  have sameEdge : edge.id = named.id := Registry.identifier_of_find? foundEdge
  rw [sameTemplate, sameEdge]
  exact ⟨foundTemplate, foundEdge⟩

end Builder

namespace Build

variable {α β : Type}

/-! ## Sequences of commands -/

/-- A sequence goes on from the result of its first command, or ends with its error. -/
theorem outcome_bind (first : Build α) (next : α → Build β) (builder : Builder) :
    ((first >>= next) builder).outcome =
      (first builder).outcome.bind fun result => (next result.1 result.2).outcome := by
  show (andThen first next builder).outcome = _
  unfold andThen
  generalize first builder = done
  obtain ⟨events, answer, left⟩ := done
  cases answer <;> rfl

/-- How a sequence is grouped does not matter for its outcome. -/
theorem outcome_bind_assoc {γ : Type} (first : Build α) (next : α → Build β) (last : β → Build γ)
    (builder : Builder) :
    ((first >>= fun result => next result >>= last) builder).outcome =
      (((first >>= next) >>= last) builder).outcome := by
  simp only [outcome_bind]
  cases (first builder).outcome <;> rfl

@[simp] theorem outcome_pure (result : α) (builder : Builder) :
    ((pure result : Build α) builder).outcome = .ok (result, builder) := rfl

@[simp] theorem outcome_get (builder : Builder) :
    ((get : Build Builder) builder).outcome = .ok (builder, builder) := rfl

@[simp] theorem outcome_set (next builder : Builder) :
    ((set next : Build Unit) builder).outcome = .ok ((), next) := rfl

@[simp] theorem outcome_modify (change : Builder → Builder) (builder : Builder) :
    ((modify change : Build Unit) builder).outcome = .ok ((), change builder) := rfl

@[simp] theorem outcome_report (event : Event) (builder : Builder) :
    (report event builder).outcome = .ok ((), builder) := rfl

@[simp] theorem outcome_fail (error : BuildError) (builder : Builder) :
    ((fail error : Build α) builder).outcome = .error error := rfl

/-! ## Handles -/

theorem outcome_resolveTemplate (handle : Option TemplateHandle) (builder : Builder) :
    (resolveTemplate handle builder).outcome =
      match builder.owner? handle with
      | some owner => .ok (owner, builder)
      | none => .error (.unknownTemplate handle) := by
  unfold resolveTemplate
  simp only [outcome_bind, outcome_get, Except.bind, Builder.owner?]
  cases handle.bind fun named => builder.network.template? named.id <;> rfl

theorem outcome_resolveLocation (handle : LocationHandle) (owner : Template) (builder : Builder) :
    (resolveLocation handle owner builder).outcome =
      if handle.template = owner.id then
        match owner.location? handle.id with
        | some location => .ok (location, builder)
        | none => .error (.unknownLocation handle)
      else .error (.foreignLocation handle owner.name) := by
  unfold resolveLocation
  split
  · cases owner.location? handle.id <;> rfl
  · rfl

@[simp] theorem outcome_resolveEdge (handle : Option EdgeHandle) (builder : Builder) :
    (resolveEdge handle builder).outcome = .ok (builder.edgeNamed? handle, builder) := by
  cases handle with
  | none => rfl
  | some named =>
    unfold resolveEdge
    simp only [outcome_bind, outcome_get, Except.bind]
    split <;> rfl

@[simp] theorem outcome_putTemplate (template : Template) (builder : Builder) :
    (putTemplate template builder).outcome = .ok ((), builder.withTemplate template) := rfl

@[simp] theorem outcome_putLocation (owner : Template) (location : Location) (builder : Builder) :
    (putLocation owner location builder).outcome = .ok ((), builder.withLocation owner location) := rfl

@[simp] theorem outcome_putEdge (owner : Template) (edge : Edge) (builder : Builder) :
    (putEdge owner edge builder).outcome = .ok ((), builder.withEdge owner edge) := rfl

/-! ## Commands -/

@[simp] theorem outcome_newAutomaton (name : String) (builder : Builder) :
    (newAutomaton name builder).outcome = .ok ((), { network := .named name }) := rfl

@[simp] theorem outcome_reset (builder : Builder) : (reset builder).outcome = .ok ((), {}) := rfl

theorem outcome_finalize (builder : Builder) :
    (finalize builder).outcome =
      if builder.network.problems.isEmpty then .ok (builder.network, builder)
      else .error (.incomplete builder.network.problems) := by
  unfold finalize
  simp only [outcome_bind, outcome_get, Except.bind]
  split <;> rfl

@[simp] theorem outcome_addGlobalDeclaration (text : String) (builder : Builder) :
    (addGlobalDeclaration text builder).outcome =
      .ok ((), { builder with network :=
        { builder.network with
          globalDeclarations := builder.network.globalDeclarations ++ [⟨text⟩] } }) := rfl

@[simp] theorem outcome_addSystemDeclaration (text : String) (builder : Builder) :
    (addSystemDeclaration text builder).outcome =
      .ok ((), { builder with network :=
        { builder.network with
          systemDeclarations := builder.network.systemDeclarations ++ [⟨text⟩] } }) := rfl

theorem outcome_addLocalDeclaration (handle : Option TemplateHandle) (text : String)
    (builder : Builder) :
    (addLocalDeclaration handle text builder).outcome =
      match builder.owner? handle with
      | some owner =>
        .ok ((), builder.withTemplate { owner with declarations := owner.declarations ++ [⟨text⟩] })
      | none => .error (.unknownTemplate handle) := by
  unfold addLocalDeclaration
  rw [outcome_bind, outcome_resolveTemplate]
  cases builder.owner? handle <;> rfl

@[simp] theorem outcome_newTemplate (name : String) (builder : Builder) :
    (newTemplate name builder).outcome =
      .ok (⟨builder.nextTemplate⟩,
        { builder with nextTemplate := builder.nextTemplate + 1 }.withTemplate
          { id := builder.nextTemplate, name }) := rfl

/-- A new location is numbered by the count of locations, which it raises. -/
theorem outcome_newLocation (stem : String) (handle : Option TemplateHandle) (builder : Builder) :
    (newLocation stem handle builder).outcome =
      match builder.owner? handle with
      | some owner =>
        let number := builder.network.locationCount
        .ok (⟨number, owner.id⟩,
          { builder with network := { builder.network with locationCount := number + 1 } }.withLocation
            owner { id := number, owner := owner.id, name := locationName stem number })
      | none => .error (.unknownTemplate handle) := by
  unfold newLocation
  rw [outcome_bind, outcome_resolveTemplate]
  cases builder.owner? handle <;> rfl

theorem outcome_setInitialLocation (location : Option LocationHandle)
    (handle : Option TemplateHandle) (builder : Builder) :
    (setInitialLocation location handle builder).outcome =
      match builder.owner? handle, location with
      | none, _ => .error (.unknownTemplate handle)
      | some _, none => .error .absentLocation
      | some owner, some named =>
        (resolveLocation named owner builder).outcome.bind fun found =>
          .ok ((), found.2.withTemplate { owner with initial := some found.1.id }) := by
  unfold setInitialLocation
  rw [outcome_bind, outcome_resolveTemplate]
  cases builder.owner? handle with
  | none => rfl
  | some owner =>
    cases location with
    | none => rfl
    | some named =>
      simp only [Except.bind, outcome_bind, outcome_putTemplate]

theorem outcome_setLocationComment (location : Option LocationHandle) (comment : String)
    (builder : Builder) :
    (setLocationComment location comment builder).outcome =
      match location with
      | none => .ok (false, builder)
      | some named =>
        match builder.owner? (some ⟨named.template⟩) with
        | none => .error (.unknownTemplate (some ⟨named.template⟩))
        | some owner =>
          (resolveLocation named owner builder).outcome.bind fun found =>
            .ok (true, found.2.withLocation owner { found.1 with comment := some comment }) := by
  unfold setLocationComment
  cases location with
  | none => rfl
  | some named =>
    simp only [outcome_bind, outcome_resolveTemplate]
    cases builder.owner? (some ⟨named.template⟩) with
    | none => rfl
    | some owner => simp only [Except.bind, outcome_putLocation, outcome_pure]

/-- A new edge has both ends unset. -/
theorem outcome_newEdge (handle : Option TemplateHandle) (builder : Builder) :
    (newEdge handle builder).outcome =
      match builder.owner? handle with
      | some owner =>
        .ok (⟨builder.nextEdge, owner.id⟩,
          { builder with nextEdge := builder.nextEdge + 1 }.withEdge owner
            { id := builder.nextEdge, owner := owner.id })
      | none => .error (.unknownTemplate handle) := by
  unfold newEdge
  rw [outcome_bind, outcome_resolveTemplate]
  cases builder.owner? handle <;> rfl

/-- The edge is looked up first, then the template that the edge says it belongs to, and last the
location in that template. -/
theorem outcome_setEdgeEnd (which : EdgeEnd) (edge : Option EdgeHandle)
    (location : Option LocationHandle) (builder : Builder) :
    (setEdgeEnd which edge location builder).outcome =
      match builder.edgeNamed? edge, location with
      | some (_, present), some named =>
        match builder.owner? (some ⟨present.owner⟩) with
        | none => .error (.unknownTemplate (some ⟨present.owner⟩))
        | some owner =>
          (resolveLocation named owner builder).outcome.bind fun found =>
            .ok (true, found.2.withEdge owner (present.withEnd which found.1.id))
      | _, _ => .ok (false, builder) := by
  unfold setEdgeEnd
  simp only [outcome_bind, outcome_resolveEdge, Except.bind]
  cases builder.edgeNamed? edge with
  | none => rfl
  | some found =>
    cases location with
    | none => rfl
    | some named =>
      simp only [outcome_bind, outcome_resolveTemplate]
      cases builder.owner? (some ⟨found.2.owner⟩) with
      | none => rfl
      | some owner => simp only [Except.bind, outcome_putEdge, outcome_pure]

theorem outcome_setEdgeGuard (edge : Option EdgeHandle) (text : String) (builder : Builder) :
    (setEdgeGuard edge text builder).outcome =
      match builder.edgeNamed? edge with
      | some (owner, present) =>
        .ok (true, builder.withEdge owner { present with guard := some ⟨text⟩ })
      | none => .ok (false, builder) := by
  unfold setEdgeGuard
  simp only [outcome_bind, outcome_resolveEdge, Except.bind]
  cases builder.edgeNamed? edge <;> rfl

theorem outcome_addEdgeUpdate (edge : Option EdgeHandle) (text : String) (builder : Builder) :
    (addEdgeUpdate edge text builder).outcome =
      match builder.edgeNamed? edge with
      | some (owner, present) =>
        .ok (true, builder.withEdge owner { present with updates := present.updates ++ [⟨text⟩] })
      | none => .ok (false, builder) := by
  unfold addEdgeUpdate
  simp only [outcome_bind, outcome_resolveEdge, Except.bind]
  cases builder.edgeNamed? edge <;> rfl

end Build

end TraceAutomata
