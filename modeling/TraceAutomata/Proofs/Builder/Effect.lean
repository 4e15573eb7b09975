import TraceAutomata.Proofs.Builder.Atomicity
import TraceAutomata.Proofs.Builder.Outcome

/-!
# What a command can do

`Effect` lists everything that one command can do to a builder, whatever handles it is given: it leaves
the builder as it was, or makes the one change of its kind after its handles were resolved.
`effect_step` says that the list is complete, and `runAll_induction` carries a property of builders from
one command to a run.
-/

namespace TraceAutomata

namespace Command

/-- The change that a command makes to a builder. The premises of a change are what the handles of the
command had to resolve to. -/
inductive Effect (before : Builder) : Command → Builder → Prop
  | kept (command : Command) : Effect before command before
  | started (name : String) : Effect before (.newAutomaton name) { network := .named name }
  | cleared : Effect before .reset {}
  | declaredGlobally (text : String) :
    Effect before (.addGlobalDeclaration text)
      { before with network :=
        { before.network with
          globalDeclarations := before.network.globalDeclarations ++ [⟨text⟩] } }
  | declaredForSystem (text : String) :
    Effect before (.addSystemDeclaration text)
      { before with network :=
        { before.network with
          systemDeclarations := before.network.systemDeclarations ++ [⟨text⟩] } }
  | declaredLocally {handle : Option TemplateHandle} {owner : Template} (text : String)
    (known : before.owner? handle = some owner) :
    Effect before (.addLocalDeclaration handle text)
      (before.withTemplate { owner with declarations := owner.declarations ++ [⟨text⟩] })
  | templateCreated (name : String) :
    Effect before (.newTemplate name)
      ({ before with nextTemplate := before.nextTemplate + 1 }.withTemplate
        { id := before.nextTemplate, name })
  | locationCreated {handle : Option TemplateHandle} {owner : Template} (stem : String)
    (known : before.owner? handle = some owner) :
    Effect before (.newLocation stem handle)
      ({ before with network :=
        { before.network with locationCount := before.network.locationCount + 1 } }.withLocation owner
          { id := before.network.locationCount, owner := owner.id,
            name := Build.locationName stem before.network.locationCount })
  | initialSet {handle : Option TemplateHandle} {owner : Template} {named : LocationHandle}
    {location : Location} (known : before.owner? handle = some owner)
    (own : named.template = owner.id) (found : owner.location? named.id = some location) :
    Effect before (.setInitialLocation (some named) handle)
      (before.withTemplate { owner with initial := some location.id })
  | commented {named : LocationHandle} {owner : Template} {location : Location} (comment : String)
    (known : before.owner? (some ⟨named.template⟩) = some owner)
    (found : owner.location? named.id = some location) :
    Effect before (.setLocationComment (some named) comment)
      (before.withLocation owner { location with comment := some comment })
  | edgeCreated {handle : Option TemplateHandle} {owner : Template}
    (known : before.owner? handle = some owner) :
    Effect before (.newEdge handle)
      ({ before with nextEdge := before.nextEdge + 1 }.withEdge owner
        { id := before.nextEdge, owner := owner.id })
  | connected {handle : Option EdgeHandle} {host owner : Template} {present : Edge}
    {named : LocationHandle} {location : Location} (which : EdgeEnd)
    (edgeKnown : before.edgeNamed? handle = some (host, present))
    (known : before.owner? (some ⟨present.owner⟩) = some owner)
    (own : named.template = owner.id) (found : owner.location? named.id = some location) :
    Effect before (.setEdgeEnd which handle (some named))
      (before.withEdge owner (present.withEnd which location.id))
  | guarded {handle : Option EdgeHandle} {owner : Template} {present : Edge} (text : String)
    (known : before.edgeNamed? handle = some (owner, present)) :
    Effect before (.setEdgeGuard handle text)
      (before.withEdge owner { present with guard := some ⟨text⟩ })
  | updated {handle : Option EdgeHandle} {owner : Template} {present : Edge} (text : String)
    (known : before.edgeNamed? handle = some (owner, present)) :
    Effect before (.addEdgeUpdate handle text)
      (before.withEdge owner { present with updates := present.updates ++ [⟨text⟩] })

/-- The builder that an outcome leaves, which is the one before when the outcome is an error. -/
def settled {α : Type} (before : Builder) : Except BuildError (α × Builder) → Builder
  | .ok (_, after) => after
  | .error _ => before

theorem builder_step (command : Command) (before : Builder) :
    (command.step before).builder = settled before (command.perform before).outcome := by
  show (command.perform before).builder = _
  cases answered : (command.perform before).answer with
  | error error =>
    rw [command.atomic_perform before error answered, Built.outcome, answered]
    rfl
  | ok answer =>
    rw [Built.outcome, answered]
    rfl

/-- An answer that is put together from the result of a command leaves the same builder. -/
@[simp] theorem settled_bind_pure {α β : Type} (before : Builder) (work : Build α) (answer : α → β) :
    settled before ((work >>= fun result => pure (answer result)) before).outcome =
      settled before (work before).outcome := by
  rw [Build.outcome_bind]
  cases (work before).outcome <;> rfl

/-- The three ways in which a location handle is looked up in a template, of which one succeeds. -/
theorem resolveLocation_cases (named : LocationHandle) (owner : Template) (builder : Builder) :
    (∃ error, (Build.resolveLocation named owner builder).outcome = .error error) ∨
      ∃ location, named.template = owner.id ∧ owner.location? named.id = some location ∧
        (Build.resolveLocation named owner builder).outcome = .ok (location, builder) := by
  rw [Build.outcome_resolveLocation]
  by_cases own : named.template = owner.id
  · rw [if_pos own]
    cases found : owner.location? named.id with
    | none => exact Or.inl ⟨_, rfl⟩
    | some location => exact Or.inr ⟨location, own, rfl, rfl⟩
  · rw [if_neg own]
    exact Or.inl ⟨_, rfl⟩

/-- Whatever its handles are, a command has one of the effects of its kind. -/
theorem effect_step (command : Command) (before : Builder) :
    Effect before command (command.step before).builder := by
  rw [builder_step]
  cases command with
  | newAutomaton name => exact .started name
  | reset => exact .cleared
  | finalize =>
    simp only [perform, settled_bind_pure, Build.outcome_finalize]
    split <;> exact .kept _
  | addGlobalDeclaration text => exact .declaredGlobally text
  | addSystemDeclaration text => exact .declaredForSystem text
  | addLocalDeclaration handle text =>
    simp only [perform, settled_bind_pure, Build.outcome_addLocalDeclaration]
    cases known : before.owner? handle with
    | none => exact .kept _
    | some owner => exact .declaredLocally text known
  | newTemplate name => exact .templateCreated name
  | newLocation stem handle =>
    simp only [perform, settled_bind_pure, Build.outcome_newLocation]
    cases known : before.owner? handle with
    | none => exact .kept _
    | some owner => exact .locationCreated stem known
  | setInitialLocation location handle =>
    simp only [perform, settled_bind_pure, Build.outcome_setInitialLocation]
    cases known : before.owner? handle with
    | none => exact .kept _
    | some owner =>
      cases location with
      | none => exact .kept _
      | some named =>
        obtain ⟨error, failed⟩ | ⟨location, own, found, resolved⟩ :=
          resolveLocation_cases named owner before
        · simp only [failed]
          exact .kept _
        · simp only [resolved]
          exact .initialSet known own found
  | setLocationComment location comment =>
    simp only [perform, settled_bind_pure, Build.outcome_setLocationComment]
    cases location with
    | none => exact .kept _
    | some named =>
      cases known : before.owner? (some ⟨named.template⟩) with
      | none => simp only [known]; exact .kept _
      | some owner =>
        obtain ⟨error, failed⟩ | ⟨location, own, found, resolved⟩ :=
          resolveLocation_cases named owner before
        · simp only [known, failed]
          exact .kept _
        · simp only [known, resolved]
          exact .commented comment known found
  | newEdge handle =>
    simp only [perform, settled_bind_pure, Build.outcome_newEdge]
    cases known : before.owner? handle with
    | none => exact .kept _
    | some owner => exact .edgeCreated known
  | setEdgeEnd which edge location =>
    simp only [perform, settled_bind_pure, Build.outcome_setEdgeEnd]
    cases edgeKnown : before.edgeNamed? edge with
    | none => exact .kept _
    | some host =>
      obtain ⟨host, present⟩ := host
      cases location with
      | none => exact .kept _
      | some named =>
        cases known : before.owner? (some ⟨present.owner⟩) with
        | none => simp only [known]; exact .kept _
        | some owner =>
          obtain ⟨error, failed⟩ | ⟨location, own, found, resolved⟩ :=
            resolveLocation_cases named owner before
          · simp only [known, failed]
            exact .kept _
          · simp only [known, resolved]
            exact .connected which edgeKnown known own found
  | setEdgeGuard edge text =>
    simp only [perform, settled_bind_pure, Build.outcome_setEdgeGuard]
    cases known : before.edgeNamed? edge with
    | none => exact .kept _
    | some found => exact .guarded text known
  | addEdgeUpdate edge text =>
    simp only [perform, settled_bind_pure, Build.outcome_addEdgeUpdate]
    cases known : before.edgeNamed? edge with
    | none => exact .kept _
    | some found => exact .updated text known

/-- A property that every command keeps holds after every run, failed commands included. -/
theorem runAll_induction {property : Builder → Prop}
    (kept : ∀ before command after, property before → Effect before command after → property after)
    {builder : Builder} (initial : property builder) (commands : List Command) :
    property (runAll builder commands) := by
  induction commands generalizing builder with
  | nil => exact initial
  | cons command rest inductionHypothesis =>
    exact inductionHypothesis (kept _ _ _ initial (effect_step command builder))

end Command

end TraceAutomata
