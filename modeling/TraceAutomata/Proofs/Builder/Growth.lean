import TraceAutomata.Proofs.Builder.Writing

/-!
# Growth

Until another network is started, a network only grows: nothing that is there is removed, renamed or moved to
another place, what is set stays set, and texts are added at the end. `Network.Grows` relates a network to what
it has become, down to each location and edge. The relation is reflexive and transitive, and each command
establishes it (`grows_of_effect`), so it holds along every run.

A handle that a command answered therefore names the object that the command created for the rest of the run.
`growing_runAll` says this together with what each command leaves alone and what it writes.
-/

namespace TraceAutomata

open Identified (identifier)

/-! ## Registries -/

namespace Registry

variable {α : Type} [Identified α] {Kept : α → α → Prop} {before middle after : Registry α}

/-- Every member is still in its place, as something that it may have become. Other members can only have come
after all of them. -/
def Grows (Kept : α → α → Prop) (before after : Registry α) : Prop :=
  ∀ (place : Nat) (member : α), before.members[place]? = some member →
    ∃ later, after.members[place]? = some later ∧ Kept member later

theorem Grows.refl (same : ∀ member, Kept member member) (registry : Registry α) :
    registry.Grows Kept registry :=
  fun _ member here => ⟨member, here, same member⟩

theorem Grows.trans (further : ∀ {one other another}, Kept one other → Kept other another → Kept one another)
    (first : before.Grows Kept middle) (second : middle.Grows Kept after) : before.Grows Kept after := by
  intro place member here
  obtain ⟨between, there, kept⟩ := first place member here
  obtain ⟨later, atLast, alsoKept⟩ := second place between there
  exact ⟨later, atLast, further kept alsoKept⟩

/-- An object may be replaced by what it may become. -/
theorem Grows.put (same : ∀ member, Kept member member) {old added : α}
    (found : before.find? (identifier added) = some old) (kept : Kept old added) :
    before.Grows Kept (before.put added) := by
  obtain ⟨present, sameId⟩ := find?_eq_some_iff.mp found
  have taken : identifier added ∈ before.identifiers := sameId ▸ List.mem_map_of_mem present
  intro place member here
  rw [members_put_of_mem taken, List.getElem?_map, here, Option.map_some]
  refine ⟨_, rfl, ?_⟩
  split
  · rename_i replaced
    have among : member ∈ before.members := List.mem_of_getElem? here
    rw [eq_of_identifier_eq among present (replaced.trans sameId.symm)]
    exact kept
  · exact same member

/-- An object under a free identifier may be added. -/
theorem Grows.put_new (same : ∀ member, Kept member member) {added : α}
    (absent : identifier added ∉ before.identifiers) : before.Grows Kept (before.put added) := by
  intro place member here
  obtain ⟨inside, _⟩ := List.getElem?_eq_some_iff.mp here
  rw [members_put_of_absent absent, List.getElem?_append_left inside]
  exact ⟨member, here, same member⟩

/-- What is found under an identifier is found again, as something that it may have become. -/
theorem Grows.find? (grows : before.Grows Kept after)
    (sameId : ∀ {member later}, Kept member later → identifier later = identifier member) {wanted : Int}
    {member : α} (found : before.find? wanted = some member) :
    ∃ later, after.find? wanted = some later ∧ Kept member later := by
  obtain ⟨present, rfl⟩ := find?_eq_some_iff.mp found
  obtain ⟨place, here⟩ := List.mem_iff_getElem?.mp present
  obtain ⟨later, there, kept⟩ := grows place member here
  exact ⟨later, find?_eq_some_iff.mpr ⟨List.mem_of_getElem? there, sameId kept⟩, kept⟩

end Registry

/-! ## Networks -/

/-- A location keeps its number, its owner and its name, and a comment is not removed. -/
structure Location.Grows (before after : Location) : Prop where
  id : after.id = before.id
  owner : after.owner = before.owner
  name : after.name = before.name
  comment : before.comment.isSome → after.comment.isSome

/-- An edge keeps its number and its owner, a source, a target or a guard is not removed, and updates are added
at the end. -/
structure Edge.Grows (before after : Edge) : Prop where
  id : after.id = before.id
  owner : after.owner = before.owner
  source : before.source.isSome → after.source.isSome
  target : before.target.isSome → after.target.isSome
  guard : before.guard.isSome → after.guard.isSome
  updates : before.updates <+: after.updates

/-- A template keeps its number and its name, an initial location is not removed, and declarations, locations
and edges are added at the end. -/
structure Template.Grows (before after : Template) : Prop where
  id : after.id = before.id
  name : after.name = before.name
  declarations : before.declarations <+: after.declarations
  locations : before.locations.Grows Location.Grows after.locations
  edges : before.edges.Grows Edge.Grows after.edges
  initial : before.initial.isSome → after.initial.isSome

/-- A network keeps its name, and declarations and templates are added at the end. -/
structure Network.Grows (before after : Network) : Prop where
  name : after.name = before.name
  globalDeclarations : before.globalDeclarations <+: after.globalDeclarations
  systemDeclarations : before.systemDeclarations <+: after.systemDeclarations
  templates : before.templates.Grows Template.Grows after.templates
  locationCount : before.locationCount ≤ after.locationCount

namespace Location.Grows

variable {before middle after : Location}

theorem refl (location : Location) : location.Grows location := ⟨rfl, rfl, rfl, fun set => set⟩

theorem trans (first : before.Grows middle) (second : middle.Grows after) : before.Grows after where
  id := second.id.trans first.id
  owner := second.owner.trans first.owner
  name := second.name.trans first.name
  comment := second.comment ∘ first.comment

end Location.Grows

namespace Edge.Grows

variable {before middle after : Edge}

theorem refl (edge : Edge) : edge.Grows edge := 
  ⟨rfl, rfl, fun set => set, fun set => set, fun set => set, List.prefix_rfl⟩

theorem trans (first : before.Grows middle) (second : middle.Grows after) : before.Grows after where
  id := second.id.trans first.id
  owner := second.owner.trans first.owner
  source := second.source ∘ first.source
  target := second.target ∘ first.target
  guard := second.guard ∘ first.guard
  updates := first.updates.trans second.updates

/-- Setting an end removes no end. -/
theorem withEnd (edge : Edge) (which : EdgeEnd) (location : Int) :
    edge.Grows (edge.withEnd which location) := by
  cases which with
  | source => exact { refl edge with source := fun _ => rfl }
  | target => exact { refl edge with target := fun _ => rfl }

end Edge.Grows

namespace Template.Grows

variable {before middle after : Template}

theorem refl (template : Template) : template.Grows template :=
  ⟨rfl, rfl, List.prefix_rfl, .refl Location.Grows.refl _, .refl Edge.Grows.refl _,
    fun set => set⟩

theorem trans (first : before.Grows middle) (second : middle.Grows after) : before.Grows after where
  id := second.id.trans first.id
  name := second.name.trans first.name
  declarations := first.declarations.trans second.declarations
  locations := first.locations.trans Location.Grows.trans second.locations
  edges := first.edges.trans Edge.Grows.trans second.edges
  initial := second.initial ∘ first.initial

end Template.Grows

namespace Network.Grows

variable {before middle after : Network}

theorem refl (network : Network) : network.Grows network :=
  ⟨rfl, List.prefix_rfl, List.prefix_rfl, .refl Template.Grows.refl _, Int.le_refl _⟩

theorem trans (first : before.Grows middle) (second : middle.Grows after) : before.Grows after where
  name := second.name.trans first.name
  globalDeclarations := first.globalDeclarations.trans second.globalDeclarations
  systemDeclarations := first.systemDeclarations.trans second.systemDeclarations
  templates := first.templates.trans Template.Grows.trans second.templates
  locationCount := Int.le_trans first.locationCount second.locationCount

/-- A template may be replaced by what it may become. -/
theorem withTemplate {builder : Builder} {owner template : Template}
    (known : builder.network.template? owner.id = some owner) (grows : owner.Grows template) :
    builder.network.Grows (builder.withTemplate template).network := by
  have found : builder.network.templates.find? (identifier template) = some owner :=
    (congrArg _ grows.id).trans known
  exact { refl builder.network with templates := .put Template.Grows.refl found grows }

end Network.Grows

/-! ## Commands -/

namespace Command

variable {before after : Builder} {command : Command} {created : List Creation}

/-- A change that a command makes only adds to the network, unless the command starts another one. -/
theorem grows_of_effect (recorded : Recorded before created) (effect : Effect before command after)
    (goesOn : command.restarts = false) : before.network.Grows after.network := by
  cases effect with
  | kept command => exact .refl _
  | started name => cases goesOn
  | cleared => cases goesOn
  | declaredGlobally text =>
    exact { Network.Grows.refl before.network with globalDeclarations := List.prefix_append _ _ }
  | declaredForSystem text =>
    exact { Network.Grows.refl before.network with systemDeclarations := List.prefix_append _ _ }
  | @declaredLocally _ owner text known =>
    exact .withTemplate (Builder.template?_of_owner? known)
      { Template.Grows.refl owner with declarations := List.prefix_append _ _ }
  | templateCreated name =>
    exact { Network.Grows.refl before.network with
      templates := .put_new Template.Grows.refl recorded.nextTemplate_notMem }
  | @locationCreated _ owner stem known =>
    have knownOwner := Builder.template?_of_owner? known
    have free := recorded.locationCount_notMem (Registry.mem_of_find? knownOwner)
    have hosted : before.network.Grows (before.withLocation owner
        { id := before.network.locationCount, owner := owner.id,
          name := Build.locationName stem before.network.locationCount }).network :=
      .withTemplate knownOwner
        { Template.Grows.refl owner with locations := .put_new Location.Grows.refl free }
    exact { hosted with locationCount := Int.le_add_one (Int.le_refl _) }
  | @initialSet _ owner _ location known _ found =>
    exact .withTemplate (Builder.template?_of_owner? known)
      { Template.Grows.refl owner with initial := fun _ => rfl }
  | @commented _ owner location comment known found =>
    have here : owner.location? location.id = some location := Registry.find?_identifier found
    have grown : location.Grows { location with comment := some comment } :=
      { Location.Grows.refl location with comment := fun _ => rfl }
    exact .withTemplate (Builder.template?_of_owner? known)
      { Template.Grows.refl owner with
        locations := .put Location.Grows.refl here grown }
  | @edgeCreated _ owner known =>
    have knownOwner := Builder.template?_of_owner? known
    have free := recorded.nextEdge_notMem (Registry.mem_of_find? knownOwner)
    have hosted : before.network.Grows (before.withEdge owner
        { id := before.nextEdge, owner := owner.id }).network :=
      .withTemplate knownOwner { Template.Grows.refl owner with edges := .put_new Edge.Grows.refl free }
    -- The count of edges is the builder's own and no part of the network.
    exact hosted
  | @connected _ host owner present _ location which edgeKnown known _ _ =>
    obtain ⟨knownHost, found⟩ := Builder.found_of_edgeNamed? edgeKnown
    obtain rfl := recorded.eq_host edgeKnown known
    have foundChanged : owner.edges.find? (identifier (present.withEnd which location.id)) = some present :=
      (congrArg _ (Edge.id_withEnd _ _ _)).trans found
    exact .withTemplate knownHost
      { Template.Grows.refl owner with
        edges := .put Edge.Grows.refl foundChanged (.withEnd present which location.id) }
  | @guarded _ owner present text known =>
    obtain ⟨knownOwner, found⟩ := Builder.found_of_edgeNamed? known
    have grown : present.Grows { present with guard := some ⟨text⟩ } :=
      { Edge.Grows.refl present with guard := fun _ => rfl }
    exact .withTemplate knownOwner
      { Template.Grows.refl owner with edges := .put Edge.Grows.refl found grown }
  | @updated _ owner present text known =>
    obtain ⟨knownOwner, found⟩ := Builder.found_of_edgeNamed? known
    have grown : present.Grows { present with updates := present.updates ++ [⟨text⟩] } :=
      { Edge.Grows.refl present with updates := List.prefix_append _ _ }
    exact .withTemplate knownOwner
      { Template.Grows.refl owner with edges := .put Edge.Grows.refl found grown }

/-- Until another network is started, every run only adds to the network. -/
theorem grows_runAll (recorded : Recorded before created) {commands : List Command}
    (goesOn : ∀ command ∈ commands, command.restarts = false) :
    before.network.Grows (runAll before commands).network := by
  induction commands generalizing before created with
  | nil => exact .refl _
  | cons command rest inductionHypothesis =>
    obtain ⟨goesOnHere, goesOnAfter⟩ := List.forall_mem_cons.mp goesOn
    have grown := grows_of_effect recorded (effect_step command before) goesOnHere
    exact grown.trans (inductionHypothesis (recorded_step recorded command) goesOnAfter)

end Command

/-! ## Handles -/

namespace Builder

variable {before after : Builder} {owner : Template}

/-- What a template handle names, it names again after the network grew. -/
theorem owner?_of_grows (grows : before.network.Grows after.network) {handle : Option TemplateHandle}
    {template : Template} (known : before.owner? handle = some template) :
    ∃ later, after.owner? handle = some later ∧ template.Grows later := by
  obtain ⟨named, rfl, found⟩ := Option.bind_eq_some_iff.mp known
  exact grows.templates.find? Template.Grows.id found

/-- What a location handle names, it names again after the network grew. -/
theorem locationNamed?_of_grows (grows : before.network.Grows after.network) {handle : LocationHandle}
    {location : Location} (known : before.locationNamed? handle = some location) :
    ∃ later, after.locationNamed? handle = some later ∧ location.Grows later := by
  obtain ⟨owner, knownOwner, found⟩ := Option.bind_eq_some_iff.mp known
  obtain ⟨host, knownHost, hostGrows⟩ := owner?_of_grows grows knownOwner
  obtain ⟨later, foundLater, kept⟩ := hostGrows.locations.find? Location.Grows.id found
  exact ⟨later, Option.bind_eq_some_iff.mpr ⟨host, knownHost, foundLater⟩, kept⟩

/-- What an edge handle names, it names again after the network grew. -/
theorem edgeNamed?_of_grows (grows : before.network.Grows after.network) {handle : Option EdgeHandle}
    {edge : Edge} (known : before.edgeNamed? handle = some (owner, edge)) :
    ∃ host later, after.edgeNamed? handle = some (host, later) ∧ edge.Grows later := by
  obtain ⟨foundOwner, foundEdge⟩ := found_of_edgeNamed? known
  obtain rfl := handle_of_edgeNamed? known
  obtain ⟨host, foundHost, hostGrows⟩ := grows.templates.find? Template.Grows.id foundOwner
  obtain ⟨later, foundLater, kept⟩ := hostGrows.edges.find? Edge.Grows.id foundEdge
  exact ⟨host, later, edgeNamed?_eq_some foundHost foundLater, kept⟩

end Builder

namespace Command

variable {before : Builder} {command : Command} {created : List Creation}

/-- An object that a command created: nothing was there before where it is looked up, it is there afterwards as
it was created, and what is there later is what became of it. -/
structure Lasts {α : Type} (Grows : α → α → Prop) (look : Builder → Option α) (object : α)
    (before after later : Builder) : Prop where
  absent : look before = none
  present : look after = some object
  still : ∃ now, look later = some now ∧ Grows object now

/-- A handle in the answer of a command is the handle of the object that the command created, now and later. -/
def Yields (command : Command) (before after later : Builder) : Answer → Prop
  | .done => True
  | .applied _ => True
  | .template handle => ∃ name, command = .newTemplate name ∧
    Lasts Template.Grows (fun builder => builder.owner? (some handle)) { id := handle.id, name }
      before after later
  | .location handle => ∃ stem, command = .newLocation stem (some ⟨handle.template⟩) ∧
    Lasts Location.Grows (fun builder => builder.locationNamed? handle)
      { id := handle.id, owner := handle.template, name := Build.locationName stem handle.id }
      before after later
  | .edge handle => command = .newEdge (some ⟨handle.template⟩) ∧
    Lasts Edge.Grows (fun builder => (builder.edgeNamed? (some handle)).map Prod.snd)
      { id := handle.id, owner := handle.template } before after later

/-- Every handle that a command answers is the one of the object that it created, as long as the network only
grows. -/
theorem yields_step (recorded : Recorded before created) {answer : Answer}
    (answered : (command.step before).answer = .ok answer) {later : Builder}
    (grows : (command.step before).builder.network.Grows later.network) :
    command.Yields before (command.step before).builder later answer := by
  cases command with
  | newTemplate name =>
    obtain ⟨handle, outcome, rfl⟩ := work_of_answer rfl answered
    rw [Build.outcome_newTemplate] at outcome
    obtain ⟨rfl, built⟩ := Prod.mk.inj (Except.ok.inj outcome)
    have present : (step (.newTemplate name) before).builder.owner? (some ⟨before.nextTemplate⟩) =
        some { id := before.nextTemplate, name } := by
      rw [← built]
      exact Registry.find?_put_of_eq rfl
    exact ⟨name, rfl, Registry.find?_eq_none_iff.mpr recorded.nextTemplate_notMem, present,
      Builder.owner?_of_grows grows present⟩
  | newLocation stem named =>
    obtain ⟨⟨error, failed⟩, _⟩ | ⟨owner, known, done, built⟩ :=
      step_of_owner (.newLocation stem named) (Build.outcome_newLocation stem named before) rfl
    · rw [failed] at answered
      cases answered
    · obtain rfl := Except.ok.inj (done.symm.trans answered)
      obtain rfl := Builder.handle_of_owner? known
      have free := recorded.locationCount_notMem
        (Registry.mem_of_find? (Builder.template?_of_owner? known))
      have absent : before.locationNamed? ⟨before.network.locationCount, owner.id⟩ = none := by
        rw [Builder.locationNamed?, known]
        exact Registry.find?_eq_none_iff.mpr free
      have present : (step (.newLocation stem (some ⟨owner.id⟩)) before).builder.locationNamed?
          ⟨before.network.locationCount, owner.id⟩ = some
            { id := before.network.locationCount, owner := owner.id,
              name := Build.locationName stem before.network.locationCount } := by
        rw [built]
        exact Builder.locationNamed?_withLocation _ _ _
      exact ⟨stem, rfl, absent, present, Builder.locationNamed?_of_grows grows present⟩
  | newEdge named =>
    obtain ⟨⟨error, failed⟩, _⟩ | ⟨owner, known, done, built⟩ :=
      step_of_owner (.newEdge named) (Build.outcome_newEdge named before) rfl
    · rw [failed] at answered
      cases answered
    · obtain rfl := Except.ok.inj (done.symm.trans answered)
      obtain rfl := Builder.handle_of_owner? known
      have absent : before.edgeNamed? (some ⟨before.nextEdge, owner.id⟩) = none := by
        refine Option.eq_none_iff_forall_ne_some.mpr fun found again => ?_
        obtain ⟨host, among, _, taken⟩ := Builder.knowsEdge_iff.mpr ⟨found, again⟩
        exact recorded.nextEdge_notMem among taken
      obtain ⟨host, present⟩ : ∃ host, (step (.newEdge (some ⟨owner.id⟩)) before).builder.edgeNamed?
          (some ⟨before.nextEdge, owner.id⟩) = some (host, { id := before.nextEdge, owner := owner.id }) := by
        rw [built]
        exact ⟨_, Builder.edgeNamed?_withEdge _ _ _⟩
      obtain ⟨laterHost, now, still, kept⟩ := Builder.edgeNamed?_of_grows grows present
      refine ⟨rfl, ?_, ?_, now, ?_, kept⟩
      · rw [absent, Option.map_none]
      · rw [present, Option.map_some]
      · rw [still, Option.map_some]
  | _ =>
    obtain ⟨_, _, rfl⟩ := work_of_answer rfl answered
    trivial

/-- In every builder that a run has come to: until another network is started, the network only grows; a handle
that a command answers is the one of the object it created, for as long; a command changes no cell that it is not
about, where cells leave nothing of the builder out; and what its handle names it changes as it was told. -/
theorem growing_runAll (history : List Command) :
    let before := runAll {} history
    (∀ commands : List Command, (∀ command ∈ commands, command.restarts = false) →
        before.network.Grows (runAll before commands).network) ∧
      (∀ (command : Command) (answer : Answer) (rest : List Command),
        (command.step before).answer = .ok answer → (∀ other ∈ rest, other.restarts = false) →
          command.Yields before (command.step before).builder (runAll (command.step before).builder rest)
            answer) ∧
      ∀ command : Command,
        let after := (command.step before).builder
        (∀ cell, after.read cell ≠ before.read cell → command.Addresses before cell) ∧
          ((∀ cell, after.read cell = before.read cell) → after = before) ∧
          ∀ answer, (command.step before).answer = .ok answer → answer ≠ .applied false →
            command.Writes before after := by
  have recorded := recorded_runAll history
  have sound := sound_runAll history
  refine ⟨fun commands goesOn => grows_runAll recorded goesOn, ?yields,
    fun command => ⟨fun cell changed => ?addresses, ?whole, fun answer answered effective => ?writes⟩⟩
  case yields =>
    intro command answer rest answered goesOn
    exact yields_step recorded answered (grows_runAll (recorded_step recorded command) goesOn)
  case addresses => exact addresses_of_read_ne sound command changed
  case whole => exact Builder.eq_of_read_eq
  case writes => exact writes_step sound answered effective

/-- An edge is created and connected, a comment is set, and a command with an unknown template fails. -/
theorem growing_connected :
    let before := runAll {} [.newTemplate "Lamp", .newLocation "Off" (some ⟨0⟩)]
    let rest : List Command :=
      [.setEdgeEnd .source (some ⟨0, 0⟩) (some ⟨0, 0⟩), .newLocation "On" (some ⟨1⟩)]
    let after := (step (.newEdge (some ⟨0⟩)) before).builder
    let commented : Command := .setLocationComment (some ⟨0, 0⟩) "dark"
    before.network.Grows (runAll before rest).network ∧
      Yields (.newEdge (some ⟨0⟩)) before after (runAll after rest) (.edge ⟨0, 0⟩) ∧
      Addresses before (.newEdge (some ⟨0⟩)) .nextEdge ∧
      commented.Writes before (commented.step before).builder ∧
      (step (.newLocation "On" (some ⟨1⟩)) before).builder = before := by
  intro before rest after commented
  obtain ⟨grows, yields, framed⟩ := growing_runAll [.newTemplate "Lamp", .newLocation "Off" (some ⟨0⟩)]
  have goesOn : ∀ command ∈ rest, command.restarts = false := by decide
  have answered : (step (.newEdge (some ⟨0⟩)) before).answer = .ok (.edge ⟨0, 0⟩) := rfl
  have counted : after.read .nextEdge ≠ before.read .nextEdge := show (1 : Int) ≠ 0 by decide
  exact ⟨grows rest goesOn, yields _ _ rest answered goesOn, (framed _).1 _ counted,
    (framed commented).2.2 (.applied true) rfl (by decide), (framed _).2.1 fun _ => rfl⟩

end Command

end TraceAutomata
