import TraceAutomata.Proofs.Builder.Effect

/-!
# Integrity of references

`Template.Sound` is the invariant of one template: its locations and edges name it as their owner, and
its references name its own locations. Every command keeps it for every template, whatever handles the
command is given, because a reference is only set to a location that was found in the template itself.
So a network that was built by commands can be incomplete, but no reference of it leaves its template.
-/

namespace TraceAutomata

/-- Locations and edges name the template as their owner, and its references name its own locations. -/
structure Template.Sound (template : Template) : Prop where
  locationOwner : ∀ location ∈ template.locations.members, location.owner = template.id
  edgeOwner : ∀ edge ∈ template.edges.members, edge.owner = template.id
  initialOwn : ∀ wanted, template.initial = some wanted → wanted ∈ template.locations.identifiers
  endOwn : ∀ edge ∈ template.edges.members, ∀ which wanted,
    edge.reference which = some wanted → wanted ∈ template.locations.identifiers

/-- Every template is sound. -/
def Network.Sound (network : Network) : Prop :=
  ∀ template ∈ network.templates.members, template.Sound

/-- A network without templates is sound. -/
theorem Network.sound_named (name : String) : (Network.named name).Sound :=
  fun _ present => nomatch present

namespace Template

variable {template : Template}

/-- A template that has only just been created is sound. -/
theorem Sound.created (id : Int) (name : String) : Sound { id, name } where
  locationOwner _ present := nomatch present
  edgeOwner _ present := nomatch present
  initialOwn _ set := nomatch set
  endOwn _ present := nomatch present

/-- The identifier of a location that was found is taken. -/
theorem mem_identifiers_of_location? {wanted : Int} {location : Location}
    (found : template.location? wanted = some location) :
    location.id ∈ template.locations.identifiers :=
  List.mem_map_of_mem (Registry.mem_of_find? found)

/-- An identifier is taken exactly when a location is found under it. -/
theorem mem_identifiers_iff {wanted : Int} :
    wanted ∈ template.locations.identifiers ↔ ∃ location, template.location? wanted = some location := by
  rw [← Option.isSome_iff_exists, ← Registry.contains_iff]
  rfl

/-- Putting a location of the template keeps the template sound, since no identifier is given up. -/
theorem Sound.putLocation (sound : template.Sound) {location : Location}
    (own : location.owner = template.id) :
    Sound { template with locations := template.locations.put location } where
  locationOwner other present := by
    obtain rfl | ⟨kept, _⟩ := Registry.mem_put.mp present
    · exact own
    · exact sound.locationOwner other kept
  edgeOwner := sound.edgeOwner
  initialOwn wanted set := Registry.mem_identifiers_put.mpr (.inr (sound.initialOwn wanted set))
  endOwn edge present which wanted set :=
    Registry.mem_identifiers_put.mpr (.inr (sound.endOwn edge present which wanted set))

/-- Putting an edge of the template whose references name its locations keeps the template sound. -/
theorem Sound.putEdge (sound : template.Sound) {edge : Edge} (own : edge.owner = template.id)
    (ends : ∀ which wanted, edge.reference which = some wanted →
      wanted ∈ template.locations.identifiers) :
    Sound { template with edges := template.edges.put edge } where
  locationOwner := sound.locationOwner
  edgeOwner other present := by
    obtain rfl | ⟨kept, _⟩ := Registry.mem_put.mp present
    · exact own
    · exact sound.edgeOwner other kept
  initialOwn := sound.initialOwn
  endOwn other present which wanted set := by
    obtain rfl | ⟨kept, _⟩ := Registry.mem_put.mp present
    · exact ends which wanted set
    · exact sound.endOwn other kept which wanted set

end Template

/-- Setting one end of an edge leaves the other as it was. -/
theorem Edge.reference_withEnd (edge : Edge) (which other : EdgeEnd) (location : Int) :
    (edge.withEnd which location).reference other =
      if other = which then some location else edge.reference other := by
  cases which <;> cases other <;> rfl

@[simp] theorem Edge.id_withEnd (edge : Edge) (which : EdgeEnd) (location : Int) :
    (edge.withEnd which location).id = edge.id := by
  cases which <;> rfl

@[simp] theorem Edge.owner_withEnd (edge : Edge) (which : EdgeEnd) (location : Int) :
    (edge.withEnd which location).owner = edge.owner := by
  cases which <;> rfl

namespace Builder

variable {builder : Builder} {owner : Template}

/-- The template that a handle names is sound. -/
theorem sound_of_owner? (sound : builder.network.Sound) {handle : Option TemplateHandle}
    (known : builder.owner? handle = some owner) : owner.Sound :=
  sound owner (Registry.mem_of_find? (template?_of_owner? known))

/-- The template in which an edge was found is sound. -/
theorem sound_of_edgeNamed? (sound : builder.network.Sound) {handle : Option EdgeHandle}
    {edge : Edge} (known : builder.edgeNamed? handle = some (owner, edge)) :
    owner.Sound ∧ edge ∈ owner.edges.members := by
  obtain ⟨foundOwner, foundEdge⟩ := found_of_edgeNamed? known
  exact ⟨sound owner (Registry.mem_of_find? foundOwner), Registry.mem_of_find? foundEdge⟩

/-- Putting a sound template keeps every template sound. -/
theorem sound_withTemplate (sound : builder.network.Sound) {template : Template}
    (own : template.Sound) : (builder.withTemplate template).network.Sound := by
  intro other present
  obtain rfl | ⟨kept, _⟩ := Registry.mem_put.mp present
  · exact own
  · exact sound other kept

end Builder

namespace Command

/-- Every effect of a command keeps all templates sound. -/
theorem sound_of_effect (before : Builder) (command : Command) (after : Builder)
    (sound : before.network.Sound) (effect : Effect before command after) : after.network.Sound := by
  cases effect with
  | kept command => exact sound
  | started name => exact Network.sound_named name
  | cleared => exact Network.sound_named ""
  | declaredGlobally text => exact sound
  | declaredForSystem text => exact sound
  | declaredLocally text known =>
    have own := Builder.sound_of_owner? sound known
    exact Builder.sound_withTemplate sound
      ⟨own.locationOwner, own.edgeOwner, own.initialOwn, own.endOwn⟩
  | templateCreated name => exact Builder.sound_withTemplate sound (.created _ _)
  | locationCreated stem known =>
    exact Builder.sound_withTemplate sound ((Builder.sound_of_owner? sound known).putLocation rfl)
  | @initialSet _ owner _ location known _ found =>
    have own := Builder.sound_of_owner? sound known
    have initialOwn : ∀ wanted, some location.id = some wanted →
        wanted ∈ owner.locations.identifiers := by
      rintro _ ⟨rfl⟩
      exact Template.mem_identifiers_of_location? found
    exact Builder.sound_withTemplate sound ⟨own.locationOwner, own.edgeOwner, initialOwn, own.endOwn⟩
  | @commented _ owner location comment known found =>
    have own := Builder.sound_of_owner? sound known
    have owned : location.owner = owner.id := own.locationOwner _ (Registry.mem_of_find? found)
    exact Builder.sound_withTemplate sound (own.putLocation owned)
  | edgeCreated known =>
    refine Builder.sound_withTemplate sound ((Builder.sound_of_owner? sound known).putEdge rfl ?_)
    intro which wanted set
    cases which <;> cases set
  | @connected _ host owner present _ location which edgeKnown known _ found =>
    -- The edge may have been found through another template than the one that gets it back; both are
    -- the template under the identifier that the edge names as its owner.
    obtain ⟨hostSound, hosted⟩ := Builder.sound_of_edgeNamed? sound edgeKnown
    have edgeOwner : present.owner = host.id := hostSound.edgeOwner _ hosted
    have foundHost := (Builder.found_of_edgeNamed? edgeKnown).1
    have foundOwner : before.network.template? present.owner = some owner := known
    rw [edgeOwner, foundHost] at foundOwner
    cases foundOwner
    refine Builder.sound_withTemplate sound (hostSound.putEdge (by simpa using edgeOwner) ?_)
    intro other wanted set
    rw [Edge.reference_withEnd] at set
    split at set
    · cases set
      exact Template.mem_identifiers_of_location? found
    · exact hostSound.endOwn _ hosted other wanted set
  | guarded text known =>
    obtain ⟨own, hosted⟩ := Builder.sound_of_edgeNamed? sound known
    have owned := own.edgeOwner _ hosted
    refine Builder.sound_withTemplate sound (own.putEdge owned fun which => ?_)
    have ends := own.endOwn _ hosted which
    cases which <;> exact ends
  | updated text known =>
    obtain ⟨own, hosted⟩ := Builder.sound_of_edgeNamed? sound known
    have owned := own.edgeOwner _ hosted
    refine Builder.sound_withTemplate sound (own.putEdge owned fun which => ?_)
    have ends := own.endOwn _ hosted which
    cases which <;> exact ends

/-- Every template of a network that was built by commands is sound. -/
theorem sound_runAll (commands : List Command) : (runAll {} commands).network.Sound :=
  @runAll_induction (fun builder => builder.network.Sound) sound_of_effect {}
    (Network.sound_named "") commands

end Command

/-! ## Problems of sound networks -/

namespace Template

variable {template : Template}

/-- The only problem with a sound template's initial location is that it is unset. -/
theorem Sound.mem_initialProblems_iff (sound : template.Sound) {problem : Problem} :
    problem ∈ template.initialProblems ↔
      template.initial = none ∧ problem = .noInitial template.name := by
  unfold initialProblems
  cases set : template.initial with
  | none => simp
  | some wanted => simp [Registry.contains_iff.mpr (sound.initialOwn wanted set)]

/-- The only problem with an end of a sound template's edge is that it is unset. -/
theorem Sound.mem_endProblems_iff (sound : template.Sound) {edge : Edge}
    (present : edge ∈ template.edges.members) {which : EdgeEnd} {problem : Problem} :
    problem ∈ template.endProblems edge which ↔
      edge.reference which = none ∧ problem = .openEnd edge.id template.name which := by
  unfold endProblems
  cases set : edge.reference which with
  | none => simp
  | some wanted => simp [Registry.contains_iff.mpr (sound.endOwn edge present which wanted set)]

/-- The problems with a sound template are what of it is unset. -/
theorem Sound.mem_problems_iff (sound : template.Sound) {problem : Problem} :
    problem ∈ template.problems ↔
      (template.initial = none ∧ problem = .noInitial template.name) ∨
        ∃ edge ∈ template.edges.members, ∃ which, edge.reference which = none ∧
          problem = .openEnd edge.id template.name which := by
  simp only [problems, edgeProblems, List.mem_append, List.mem_flatMap, sound.mem_initialProblems_iff]
  refine or_congr_right (exists_congr fun edge => and_congr_right fun present => ?_)
  rw [sound.mem_endProblems_iff present, sound.mem_endProblems_iff present]
  constructor
  · rintro (open_ | open_)
    · exact ⟨.source, open_⟩
    · exact ⟨.target, open_⟩
  · rintro ⟨which, open_⟩
    cases which with
    | source => exact .inl open_
    | target => exact .inr open_

end Template

/-- What the references of a network hold, read through its look-ups: everything is stored under its own
identifier, names its owner, and refers to locations of its own template only. What the network reports as
problems is then exactly what is unset. -/
structure Network.Coherent (network : Network) : Prop where
  templateKey : ∀ key template, network.template? key = some template → template.id = key
  locationKey : ∀ template ∈ network.templates.members, ∀ key location,
    template.location? key = some location → location.id = key ∧ location.owner = template.id
  edgeKey : ∀ template ∈ network.templates.members, ∀ key edge,
    template.edge? key = some edge → edge.id = key ∧ edge.owner = template.id
  initialOwn : ∀ template ∈ network.templates.members, ∀ wanted,
    template.initial = some wanted → ∃ location, template.location? wanted = some location
  endOwn : ∀ template ∈ network.templates.members, ∀ edge ∈ template.edges.members, ∀ which wanted,
    edge.reference which = some wanted → ∃ location, template.location? wanted = some location
  problems : ∀ problem, problem ∈ network.problems ↔ ∃ template ∈ network.templates.members,
    (template.initial = none ∧ problem = .noInitial template.name) ∨
      ∃ edge ∈ template.edges.members, ∃ which, edge.reference which = none ∧
        problem = .openEnd edge.id template.name which

/-- A network of sound templates is coherent. -/
theorem Network.Sound.coherent {network : Network} (sound : network.Sound) : network.Coherent where
  templateKey _ _ found := Registry.identifier_of_find? found
  locationKey template present key location found :=
    ⟨Registry.identifier_of_find? found,
      (sound template present).locationOwner location (Registry.mem_of_find? found)⟩
  edgeKey template present key edge found :=
    ⟨Registry.identifier_of_find? found,
      (sound template present).edgeOwner edge (Registry.mem_of_find? found)⟩
  initialOwn template present wanted set :=
    Template.mem_identifiers_iff.mp ((sound template present).initialOwn wanted set)
  endOwn template present edge hosted which wanted set :=
    Template.mem_identifiers_iff.mp ((sound template present).endOwn edge hosted which wanted set)
  problems problem := by
    unfold Network.problems
    rw [List.mem_flatMap]
    exact exists_congr fun template => and_congr_right fun present =>
      (sound template present).mem_problems_iff

/-- After every run of commands on a fresh builder, with any handles and with commands that fail, the
network is coherent. -/
theorem Command.coherent_runAll (commands : List Command) :
    (Command.runAll {} commands).network.Coherent :=
  (Command.sound_runAll commands).coherent

end TraceAutomata
