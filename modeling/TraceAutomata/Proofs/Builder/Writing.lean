import TraceAutomata.Proofs.Builder.Creation
import TraceAutomata.Proofs.Builder.Frame

/-!
# What a command writes

A command that sets or adds something is given a handle. When it neither fails nor answers false, the object that
the handle names is afterwards the object that it named before with the one change of the command
(`writes_step`). Together with what the command leaves alone this is all that it does.
-/

namespace TraceAutomata

/-! ## Looking up what was put -/

namespace Builder

/-- The location that a handle names, looked up as commands do: first the template, then the location in it. -/
def locationNamed? (builder : Builder) (handle : LocationHandle) : Option Location := do
  let owner ← builder.owner? (some ⟨handle.template⟩)
  owner.location? handle.id

/-- A location that was put into a template is named by its number and the one of the template. -/
theorem locationNamed?_withLocation (builder : Builder) (owner : Template) (location : Location) :
    (builder.withLocation owner location).locationNamed? ⟨location.id, owner.id⟩ = some location :=
  Option.bind_eq_some_iff.mpr ⟨_, Registry.find?_put_of_eq rfl, Registry.find?_put_of_eq rfl⟩

/-- An edge that was put into a template is named by its number and the one of the template. -/
theorem edgeNamed?_withEdge (builder : Builder) (owner : Template) (edge : Edge) :
    (builder.withEdge owner edge).edgeNamed? (some ⟨edge.id, owner.id⟩) =
      some ({ owner with edges := owner.edges.put edge }, edge) :=
  edgeNamed?_eq_some (Registry.find?_put_of_eq rfl) (Registry.find?_put_of_eq rfl)

end Builder

/-! ## Writing -/

namespace Command

/-- What is looked up is there before, and afterwards it is there with a change. -/
def Replaces {α : Type} (look : Builder → Option α) (change : α → α) (before after : Builder) : Prop :=
  ∃ old, look before = some old ∧ look after = some (change old)

section Replaces

variable {before : Builder} {owner : Template}

theorem replaces_template {handle : Option TemplateHandle} (known : before.owner? handle = some owner)
    (change : Template → Template) (sameId : (change owner).id = owner.id) :
    Replaces (fun builder => builder.owner? handle) change before (before.withTemplate (change owner)) := by
  refine ⟨owner, known, ?_⟩
  obtain rfl := Builder.handle_of_owner? known
  exact Registry.find?_put_of_eq sameId

theorem replaces_location {named : LocationHandle} {location : Location}
    (known : before.owner? (some ⟨named.template⟩) = some owner)
    (found : owner.location? named.id = some location) (change : Location → Location)
    (sameId : (change location).id = location.id) :
    Replaces (fun builder => builder.locationNamed? named) change before
      (before.withLocation owner (change location)) := by
  refine ⟨location, Option.bind_eq_some_iff.mpr ⟨owner, known, found⟩, ?_⟩
  have sameOwner : owner.id = named.template := Registry.identifier_of_find? known
  have sameLocation : (change location).id = named.id :=
    sameId.trans (Registry.identifier_of_find? found)
  have handle : named = ⟨(change location).id, owner.id⟩ := by rw [sameOwner, sameLocation]
  rw [handle]
  exact Builder.locationNamed?_withLocation before owner (change location)

theorem replaces_edge {handle : Option EdgeHandle} {edge : Edge}
    (known : before.edgeNamed? handle = some (owner, edge)) (change : Edge → Edge)
    (sameId : (change edge).id = edge.id) :
    Replaces (fun builder => (builder.edgeNamed? handle).map Prod.snd) change before
      (before.withEdge owner (change edge)) := by
  refine ⟨edge, Option.map_eq_some_iff.mpr ⟨_, known, rfl⟩, ?_⟩
  obtain rfl := Builder.handle_of_edgeNamed? known
  rw [← sameId]
  exact Option.map_eq_some_iff.mpr ⟨_, Builder.edgeNamed?_withEdge before owner (change edge), rfl⟩

end Replaces

variable {before : Builder} {command : Command}

/-- What a command that takes effect changes where its handle points. A command that creates something or starts
another network is given no handle of something to change. -/
def Writes (before after : Builder) : Command → Prop
  | .addGlobalDeclaration text =>
    after.network.globalDeclarations = before.network.globalDeclarations ++ [⟨text⟩]
  | .addSystemDeclaration text =>
    after.network.systemDeclarations = before.network.systemDeclarations ++ [⟨text⟩]
  | .addLocalDeclaration handle text =>
    Replaces (fun builder => builder.owner? handle)
      (fun owner => { owner with declarations := owner.declarations ++ [⟨text⟩] }) before after
  | .setInitialLocation location handle => ∃ named, location = some named ∧
    Replaces (fun builder => builder.owner? handle)
      (fun owner => { owner with initial := some named.id }) before after
  | .setLocationComment location comment => ∃ named, location = some named ∧
    Replaces (fun builder => builder.locationNamed? named)
      (fun found => { found with comment := some comment }) before after
  | .setEdgeEnd which edge location => ∃ named, location = some named ∧
    Replaces (fun builder => (builder.edgeNamed? edge).map Prod.snd)
      (fun found => found.withEnd which named.id) before after
  | .setEdgeGuard edge text =>
    Replaces (fun builder => (builder.edgeNamed? edge).map Prod.snd)
      (fun found => { found with guard := some ⟨text⟩ }) before after
  | .addEdgeUpdate edge text =>
    Replaces (fun builder => (builder.edgeNamed? edge).map Prod.snd)
      (fun found => { found with updates := found.updates ++ [⟨text⟩] }) before after
  | _ => True

/-- A command that changes one edge finds it, unless it answers false. -/
theorem step_of_edge (command : Command) {work : Build Bool} {edge : Option EdgeHandle}
    {result : Template → Edge → Builder}
    (outcome : (work before).outcome =
      match before.edgeNamed? edge with
      | some (owner, present) => .ok (true, result owner present)
      | none => .ok (false, before))
    (performs : command.perform = work >>= fun made => pure (.applied made))
    (effective : (command.step before).answer ≠ .ok (.applied false)) :
    ∃ owner present, before.edgeNamed? edge = some (owner, present) ∧
      (command.step before).builder = result owner present := by
  have performed := outcome_bind_pure work Answer.applied before
  rw [← performs, outcome] at performed
  rw [answer_step, performed] at effective
  rw [builder_step, performed]
  cases known : before.edgeNamed? edge with
  | none =>
    rw [known] at effective
    exact (effective rfl).elim
  | some found => exact ⟨found.1, found.2, rfl, rfl⟩

theorem writes_setInitialLocation {location : Option LocationHandle} {handle : Option TemplateHandle}
    {answer : Answer} (answered : (step (.setInitialLocation location handle) before).answer = .ok answer) :
    Writes before (step (.setInitialLocation location handle) before).builder
      (.setInitialLocation location handle) := by
  obtain ⟨_, outcome, _⟩ := work_of_answer rfl answered
  rw [Build.outcome_setInitialLocation] at outcome
  cases known : before.owner? handle with
  | none =>
    rw [known] at outcome
    cases outcome
  | some owner =>
    rw [known] at outcome
    cases location with
    | none => cases outcome
    | some named =>
      obtain ⟨error, failed⟩ | ⟨location, own, found, resolved⟩ :=
        resolveLocation_cases named owner before
      · simp only [failed] at outcome
        cases outcome
      · simp only [resolved, Except.bind] at outcome
        have built := (Prod.mk.inj (Except.ok.inj outcome)).2
        have sameLocation : location.id = named.id := Registry.identifier_of_find? found
        rw [← built, sameLocation]
        exact ⟨named, rfl, replaces_template known _ (by rfl)⟩

theorem writes_setLocationComment {location : Option LocationHandle} {comment : String} {answer : Answer}
    (answered : (step (.setLocationComment location comment) before).answer = .ok answer)
    (effective : answer ≠ .applied false) :
    Writes before (step (.setLocationComment location comment) before).builder
      (.setLocationComment location comment) := by
  obtain ⟨result, outcome, rfl⟩ := work_of_answer rfl answered
  rw [Build.outcome_setLocationComment] at outcome
  cases location with
  | none =>
    obtain ⟨rfl, _⟩ := Prod.mk.inj (Except.ok.inj outcome)
    exact (effective rfl).elim
  | some named =>
    cases known : before.owner? (some ⟨named.template⟩) with
    | none =>
      simp only [known] at outcome
      cases outcome
    | some owner =>
      obtain ⟨error, failed⟩ | ⟨location, own, found, resolved⟩ :=
        resolveLocation_cases named owner before
      · simp only [known, failed] at outcome
        cases outcome
      · simp only [known, resolved, Except.bind] at outcome
        have built := (Prod.mk.inj (Except.ok.inj outcome)).2
        rw [← built]
        exact ⟨named, rfl, replaces_location known found _ (by rfl)⟩

/-- The location is looked up in the template in which the edge was found, since the edge names it as its
owner. -/
theorem writes_setEdgeEnd (sound : before.network.Sound) {which : EdgeEnd} {edge : Option EdgeHandle}
    {location : Option LocationHandle} {answer : Answer}
    (answered : (step (.setEdgeEnd which edge location) before).answer = .ok answer)
    (effective : answer ≠ .applied false) :
    Writes before (step (.setEdgeEnd which edge location) before).builder
      (.setEdgeEnd which edge location) := by
  obtain ⟨result, outcome, rfl⟩ := work_of_answer rfl answered
  rw [Build.outcome_setEdgeEnd] at outcome
  cases edgeKnown : before.edgeNamed? edge with
  | none =>
    rw [edgeKnown] at outcome
    obtain ⟨rfl, _⟩ := Prod.mk.inj (Except.ok.inj outcome)
    exact (effective rfl).elim
  | some found =>
    obtain ⟨host, present⟩ := found
    rw [edgeKnown] at outcome
    cases location with
    | none =>
      obtain ⟨rfl, _⟩ := Prod.mk.inj (Except.ok.inj outcome)
      exact (effective rfl).elim
    | some named =>
      obtain rfl := Builder.handle_of_edgeNamed? edgeKnown
      have ownerKnown := (Builder.owner?_of_edgeNamed? sound edgeKnown).2
      obtain ⟨error, failed⟩ | ⟨location, own, found, resolved⟩ :=
        resolveLocation_cases named host before
      · simp only [ownerKnown, failed] at outcome
        cases outcome
      · simp only [ownerKnown, resolved, Except.bind] at outcome
        have built := (Prod.mk.inj (Except.ok.inj outcome)).2
        have sameLocation : location.id = named.id := Registry.identifier_of_find? found
        rw [← built, sameLocation]
        exact ⟨named, rfl, replaces_edge edgeKnown _ (Edge.id_withEnd _ _ _)⟩

/-- A command that neither fails nor answers false writes what it was given. -/
theorem writes_step (sound : before.network.Sound) {answer : Answer}
    (answered : (command.step before).answer = .ok answer) (effective : answer ≠ .applied false) :
    command.Writes before (command.step before).builder := by
  have notFalse : (command.step before).answer ≠ .ok (.applied false) := by
    rw [answered]
    exact fun same => effective (Except.ok.inj same)
  cases command with
  | addGlobalDeclaration text => rfl
  | addSystemDeclaration text => rfl
  | addLocalDeclaration handle text =>
    obtain ⟨⟨error, failed⟩, _⟩ | ⟨owner, known, _, built⟩ :=
      step_of_owner (.addLocalDeclaration handle text)
        (Build.outcome_addLocalDeclaration handle text before) rfl
    · rw [failed] at answered
      cases answered
    · rw [built]
      exact replaces_template known
        (fun owner => { owner with declarations := owner.declarations ++ [⟨text⟩] }) rfl
  | setInitialLocation location handle => exact writes_setInitialLocation answered
  | setLocationComment location comment => exact writes_setLocationComment answered effective
  | setEdgeEnd which edge location => exact writes_setEdgeEnd sound answered effective
  | setEdgeGuard edge text =>
    obtain ⟨owner, present, known, built⟩ :=
      step_of_edge (.setEdgeGuard edge text) (Build.outcome_setEdgeGuard edge text before) rfl notFalse
    rw [built]
    exact replaces_edge known (fun found => { found with guard := some ⟨text⟩ }) rfl
  | addEdgeUpdate edge text =>
    obtain ⟨owner, present, known, built⟩ :=
      step_of_edge (.addEdgeUpdate edge text) (Build.outcome_addEdgeUpdate edge text before) rfl notFalse
    rw [built]
    exact replaces_edge known (fun found => { found with updates := found.updates ++ [⟨text⟩] }) rfl
  | _ => trivial

end Command

end TraceAutomata
