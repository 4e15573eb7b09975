import Mathlib.Data.List.DropRight
import Mathlib.Data.List.Nodup
import TraceAutomata.Proofs.Builder.Failure

/-!
# What commands created

A run of commands creates templates, locations and edges, and begins anew where a command starts another
network. `Command.creations` lists what was created since then, told from the answers of the commands alone.
`Recorded` says that the network holds just these objects: `Creation.outlines` computes from the list which
templates there are, under which names, and which locations and edges each of them holds in which order. Each
kind of object was numbered from zero in the order of creation.

`recorded_runAll` proves this of every run, whatever handles the commands were given and whether or not they
failed.
-/

namespace TraceAutomata

/-! ## The list of creations -/

/-- Something that a command created: the handle it answered, and what the object was to be called. -/
inductive Creation
  | template (handle : TemplateHandle) (name : String)
  | location (handle : LocationHandle) (stem : String)
  | edge (handle : EdgeHandle)
  deriving DecidableEq, Repr

namespace Command

/-- Whether a command starts another network. -/
def restarts : Command → Bool
  | .newAutomaton _ => true
  | .reset => true
  | _ => false

/-- What a command created, if it answered a handle of it. -/
def creation? : Command → Except BuildError Answer → Option Creation
  | .newTemplate name, .ok (.template handle) => some (.template handle name)
  | .newLocation stem _, .ok (.location handle) => some (.location handle stem)
  | .newEdge _, .ok (.edge handle) => some (.edge handle)
  | _, _ => none

/-- What the commands of a run created since the last of them that started another network. -/
def creations (builder : Builder) (commands : List Command) : List Creation :=
  ((commands.zip (performedAll builder commands)).rtakeWhile fun done => !done.1.restarts).filterMap
    fun done => done.1.creation? done.2.answer

theorem length_performedAll (builder : Builder) (commands : List Command) :
    (performedAll builder commands).length = commands.length := by
  induction commands generalizing builder with
  | nil => rfl
  | cons command rest inductionHypothesis => simp [performedAll, inductionHypothesis]

theorem runAll_concat (builder : Builder) (commands : List Command) (command : Command) :
    runAll builder (commands ++ [command]) = (command.step (runAll builder commands)).builder := by
  simp [runAll]

theorem performedAll_concat (builder : Builder) (commands : List Command) (command : Command) :
    performedAll builder (commands ++ [command]) =
      performedAll builder commands ++ [command.step (runAll builder commands)] := by
  induction commands generalizing builder with
  | nil => rfl
  | cons first rest inductionHypothesis =>
    exact congrArg (List.cons (first.step builder)) (inductionHypothesis _)

/-- One more command adds what it created, unless it starts another network. -/
theorem creations_concat (builder : Builder) (commands : List Command) (command : Command) :
    creations builder (commands ++ [command]) =
      if command.restarts then []
      else creations builder commands
        ++ (command.creation? (command.step (runAll builder commands)).answer).toList := by
  unfold creations
  rw [performedAll_concat, List.zip_append (length_performedAll builder commands).symm]
  cases restarted : command.restarts with
  | true => simp [restarted]
  | false =>
    cases created : command.creation? (command.step (runAll builder commands)).answer <;>
      simp [restarted, created]

end Command

namespace Creation

/-- The template that was created, with its name. -/
def template? : Creation → Option (TemplateHandle × String)
  | .template handle name => some (handle, name)
  | _ => none

/-- The location that was created, with the stem of its name. -/
def location? : Creation → Option (LocationHandle × String)
  | .location handle stem => some (handle, stem)
  | _ => none

/-- The edge that was created. -/
def edge? : Creation → Option EdgeHandle
  | .edge handle => some handle
  | _ => none

end Creation

/-! ## Outlines -/

/-- What of a template is never changed once it is there: its number and its name, and the locations and
edges that it holds, with the names of locations. -/
structure TemplateOutline where
  id : Int
  name : String
  locations : List (LocationHandle × String)
  edges : List EdgeHandle

/-- The outline of a template. -/
def Template.outline (template : Template) : TemplateOutline where
  id := template.id
  name := template.name
  locations := template.locations.members.map fun location =>
    (⟨location.id, location.owner⟩, location.name)
  edges := template.edges.members.map fun edge => ⟨edge.id, edge.owner⟩

/-- The outlines of the templates of a network. -/
def Network.outlines (network : Network) : List TemplateOutline :=
  network.templates.members.map Template.outline

namespace Creation

variable (created : List Creation)

/-- The templates among what was created, with their names. -/
def templates : List (TemplateHandle × String) := created.filterMap template?

/-- The locations among what was created, with the stems of their names. -/
def locations : List (LocationHandle × String) := created.filterMap location?

/-- The edges among what was created. -/
def edges : List EdgeHandle := created.filterMap edge?

/-- A created location with its name. -/
def named (entry : LocationHandle × String) : LocationHandle × String :=
  (entry.1, Build.locationName entry.2 entry.1.id)

/-- The outline of a created template, with what was created in it. -/
def outline (entry : TemplateHandle × String) : TemplateOutline where
  id := entry.1.id
  name := entry.2
  locations := ((locations created).filter fun location => location.1.template = entry.1.id).map named
  edges := (edges created).filter fun edge => edge.template = entry.1.id

/-- The outlines of all created templates. -/
def outlines : List TemplateOutline := (templates created).map (outline created)

end Creation

/-! ## Numbers -/

/-- Numbers that were given out one after another from zero, and the number that comes next. -/
structure Allotted (numbers : List Int) (next : Int) : Prop where
  inOrder : numbers = (List.range numbers.length).map Nat.cast
  next : next = numbers.length

namespace Allotted

variable {numbers : List Int} {next : Int}

theorem nil : Allotted [] 0 := ⟨rfl, rfl⟩

/-- The number that comes next may be given out. -/
theorem concat (allotted : Allotted numbers next) : Allotted (numbers ++ [next]) (next + 1) where
  inOrder := by
    rw [List.length_append, List.length_singleton, List.range_succ, List.map_append, ← allotted.inOrder,
      allotted.next]
    rfl
  next := by simp [allotted.next]

/-- The numbers that were given out are those from zero to the next one. -/
theorem mem_iff (allotted : Allotted numbers next) {number : Int} :
    number ∈ numbers ↔ 0 ≤ number ∧ number < next := by
  rw [allotted.inOrder, allotted.next, List.mem_map]
  simp only [List.mem_range]
  constructor
  · rintro ⟨place, below, rfl⟩
    omega
  · rintro ⟨natural, below⟩
    exact ⟨number.toNat, by omega, by omega⟩

theorem next_notMem (allotted : Allotted numbers next) : next ∉ numbers := by
  rw [allotted.mem_iff]
  omega

/-- The numbers increase. -/
theorem pairwise (allotted : Allotted numbers next) : numbers.Pairwise (· < ·) := by
  rw [allotted.inOrder, List.pairwise_map]
  exact List.pairwise_lt_range.imp Int.ofNat_lt.mpr

end Allotted

/-! ## A network holds what was created -/

/-- A network holds what was created in it, each object in the template in which it was created, and the
objects of each kind are numbered in order. -/
structure Recorded (builder : Builder) (created : List Creation) : Prop where
  outlines : builder.network.outlines = Creation.outlines created
  templates : Allotted ((Creation.templates created).map fun entry => entry.1.id) builder.nextTemplate
  locations :
    Allotted ((Creation.locations created).map fun entry => entry.1.id) builder.network.locationCount
  edges : Allotted ((Creation.edges created).map EdgeHandle.id) builder.nextEdge
  locationHosts : ∀ entry ∈ Creation.locations created,
    entry.1.template ∈ (Creation.templates created).map fun entry => entry.1.id
  edgeHosts : ∀ handle ∈ Creation.edges created,
    handle.template ∈ (Creation.templates created).map fun entry => entry.1.id

section Outlines

variable {builder : Builder} {owner template : Template}

/-- The template of a number that is found is the one with this number. -/
theorem eq_of_id_eq (known : builder.network.template? owner.id = some owner)
    (present : template ∈ builder.network.templates.members) (same : template.id = owner.id) :
    template = owner :=
  Registry.eq_of_identifier_eq present (Registry.mem_of_find? known) same

/-- Putting a template back with another outline changes the outline of this template only. -/
theorem outlines_withTemplate (known : builder.network.template? owner.id = some owner)
    (sameId : template.id = owner.id) (change : TemplateOutline → TemplateOutline)
    (changed : template.outline = change owner.outline) :
    (builder.withTemplate template).network.outlines =
      builder.network.outlines.map fun outline =>
        if outline.id = owner.id then change outline else outline := by
  have taken : template.id ∈ builder.network.templates.identifiers := by
    rw [sameId]
    exact List.mem_map_of_mem (Registry.mem_of_find? known)
  show (builder.network.templates.put template).members.map Template.outline =
    (builder.network.templates.members.map Template.outline).map _
  rw [Registry.members_put_of_mem taken, List.map_map, List.map_map]
  refine List.map_congr_left fun other present => ?_
  show Template.outline (if other.id = template.id then template else other) =
    if other.id = owner.id then change other.outline else other.outline
  rw [sameId]
  split
  · rename_i same
    rw [changed, eq_of_id_eq known present same]
  · rfl

/-- Putting a template back with the same outline changes no outline. -/
theorem outlines_withTemplate_same (known : builder.network.template? owner.id = some owner)
    (same : template.outline = owner.outline) :
    (builder.withTemplate template).network.outlines = builder.network.outlines := by
  have sameId : template.id = owner.id := congrArg TemplateOutline.id same
  have found : builder.network.template? template.id = some owner := by rw [sameId, known]
  exact Registry.map_members_put Template.outline found same

/-- Putting back a location with another comment changes no outline. -/
theorem outline_commented {location : Location} (comment : Option String)
    (found : owner.location? location.id = some location) :
    Template.outline { owner with locations := owner.locations.put { location with comment } } =
      owner.outline := by
  have kept : (owner.locations.put { location with comment }).members.map _ = _ :=
    Registry.map_members_put (fun location : Location =>
      ((⟨location.id, location.owner⟩ : LocationHandle), location.name)) found rfl
  simp only [Template.outline, kept]

/-- Putting back an edge with its number and its owner changes no outline. -/
theorem outline_putEdge {edge changed : Edge} (found : owner.edge? edge.id = some edge)
    (sameId : changed.id = edge.id) (sameOwner : changed.owner = edge.owner) :
    Template.outline { owner with edges := owner.edges.put changed } = owner.outline := by
  have present : owner.edge? changed.id = some edge := by rw [sameId, found]
  have kept : (owner.edges.put changed).members.map _ = _ :=
    Registry.map_members_put (fun edge : Edge => (⟨edge.id, edge.owner⟩ : EdgeHandle)) present
      (by rw [sameId, sameOwner])
  simp only [Template.outline, kept]

/-- A location with a free number stands at the end of its template. -/
theorem outline_putLocation_new {location : Location}
    (free : location.id ∉ owner.locations.identifiers) :
    Template.outline { owner with locations := owner.locations.put location } =
      { owner.outline with
        locations := owner.outline.locations ++ [(⟨location.id, location.owner⟩, location.name)] } := by
  have members : (owner.locations.put location).members = owner.locations.members ++ [location] :=
    Registry.members_put_of_absent free
  simp only [Template.outline, members, List.map_append, List.map_singleton]

/-- An edge with a free number stands at the end of its template. -/
theorem outline_putEdge_new {edge : Edge} (free : edge.id ∉ owner.edges.identifiers) :
    Template.outline { owner with edges := owner.edges.put edge } =
      { owner.outline with edges := owner.outline.edges ++ [⟨edge.id, edge.owner⟩] } := by
  have members : (owner.edges.put edge).members = owner.edges.members ++ [edge] :=
    Registry.members_put_of_absent free
  simp only [Template.outline, members, List.map_append, List.map_singleton]

end Outlines

namespace Creation

variable {created : List Creation}

theorem templates_concat (creation : Creation) :
    templates (created ++ [creation]) = templates created ++ creation.template?.toList := by
  cases creation <;> simp [templates, template?]

theorem locations_concat (creation : Creation) :
    locations (created ++ [creation]) = locations created ++ creation.location?.toList := by
  cases creation <;> simp [locations, location?]

theorem edges_concat (creation : Creation) :
    edges (created ++ [creation]) = edges created ++ creation.edge?.toList := by
  cases creation <;> simp [edges, edge?]

/-- A created template is new and holds nothing yet. -/
theorem outlines_concat_template (handle : TemplateHandle) (name : String)
    (noLocation : ∀ entry ∈ locations created, entry.1.template ≠ handle.id)
    (noEdge : ∀ edge ∈ edges created, edge.template ≠ handle.id) :
    outlines (created ++ [.template handle name]) = outlines created ++ [⟨handle.id, name, [], []⟩] := by
  have sameOutline : outline (created ++ [.template handle name]) = outline created := by
    funext entry
    simp [outline, locations_concat, edges_concat, location?, edge?]
  have empty : outline created (handle, name) = ⟨handle.id, name, [], []⟩ := by
    have locations := List.filter_eq_nil_iff.mpr fun entry among =>
      decide_eq_true_iff.not.mpr (noLocation entry among)
    have edges := List.filter_eq_nil_iff.mpr fun edge among =>
      decide_eq_true_iff.not.mpr (noEdge edge among)
    simp only [outline, locations, edges, List.map_nil]
  rw [outlines, templates_concat, template?, Option.toList_some, List.map_append, List.map_singleton,
    sameOutline, empty, outlines]

/-- A created location stands at the end of its template. -/
theorem outlines_concat_location (handle : LocationHandle) (stem : String) :
    outlines (created ++ [.location handle stem]) =
      (outlines created).map fun outline =>
        if outline.id = handle.template then
          { outline with locations := outline.locations ++ [named (handle, stem)] }
        else outline := by
  simp only [outlines, templates_concat, template?, Option.toList_none, List.append_nil, List.map_map]
  refine List.map_congr_left fun entry _ => ?_
  by_cases same : handle.template = entry.1.id
  · simp [outline, locations_concat, edges_concat, location?, edge?, same]
  · simp [outline, locations_concat, edges_concat, location?, edge?, same, Ne.symm same]

/-- A created edge stands at the end of its template. -/
theorem outlines_concat_edge (handle : EdgeHandle) :
    outlines (created ++ [.edge handle]) =
      (outlines created).map fun outline =>
        if outline.id = handle.template then { outline with edges := outline.edges ++ [handle] }
        else outline := by
  simp only [outlines, templates_concat, template?, Option.toList_none, List.append_nil, List.map_map]
  refine List.map_congr_left fun entry _ => ?_
  by_cases same : handle.template = entry.1.id
  · simp [outline, locations_concat, edges_concat, location?, edge?, same]
  · simp [outline, locations_concat, edges_concat, location?, edge?, same, Ne.symm same]

end Creation

namespace Recorded

variable {builder : Builder} {created : List Creation} {owner template : Template}

/-- The numbers of the templates are those of the created ones, in order. -/
theorem identifiers_templates (recorded : Recorded builder created) :
    builder.network.templates.identifiers =
      (Creation.templates created).map fun entry => entry.1.id := by
  have numbers := congrArg (List.map TemplateOutline.id) recorded.outlines
  rw [Network.outlines, Creation.outlines, List.map_map, List.map_map] at numbers
  exact numbers

/-- A template was created and holds what was created in it. -/
theorem outline_of_mem (recorded : Recorded builder created)
    (present : template ∈ builder.network.templates.members) :
    template.outline = Creation.outline created (⟨template.id⟩, template.name) := by
  have among : template.outline ∈ Creation.outlines created := by
    rw [← recorded.outlines]
    exact List.mem_map_of_mem present
  obtain ⟨⟨handle, name⟩, _, same⟩ := List.mem_map.mp among
  have number : handle.id = template.id := congrArg TemplateOutline.id same
  have called : name = template.name := congrArg TemplateOutline.name same
  rw [← same, ← number, ← called]

/-- The locations of a template are those that were created in it, in order. -/
theorem locations_of_mem (recorded : Recorded builder created)
    (present : template ∈ builder.network.templates.members) :
    (template.locations.members.map fun location =>
        ((⟨location.id, location.owner⟩ : LocationHandle), location.name)) =
      ((Creation.locations created).filter fun entry => entry.1.template = template.id).map
        Creation.named :=
  congrArg TemplateOutline.locations (recorded.outline_of_mem present)

/-- The edges of a template are those that were created in it, in order. -/
theorem edges_of_mem (recorded : Recorded builder created)
    (present : template ∈ builder.network.templates.members) :
    (template.edges.members.map fun edge => (⟨edge.id, edge.owner⟩ : EdgeHandle)) =
      (Creation.edges created).filter fun handle => handle.template = template.id :=
  congrArg TemplateOutline.edges (recorded.outline_of_mem present)

/-- A location was created in the template that holds it, which it names as its owner, with the stem of its
name. -/
theorem location_mem (recorded : Recorded builder created)
    (present : template ∈ builder.network.templates.members) {location : Location}
    (hosted : location ∈ template.locations.members) :
    location.owner = template.id ∧ ∃ stem,
      ((⟨location.id, template.id⟩, stem) : LocationHandle × String) ∈ Creation.locations created ∧
        location.name = Build.locationName stem location.id := by
  have among := List.mem_map_of_mem hosted
    (f := fun location => ((⟨location.id, location.owner⟩ : LocationHandle), location.name))
  rw [recorded.locations_of_mem present] at among
  obtain ⟨⟨handle, stem⟩, kept, same⟩ := List.mem_map.mp among
  obtain ⟨recordedThere, own⟩ := List.mem_filter.mp kept
  obtain ⟨rfl, named⟩ := Prod.mk.inj same
  have owned : location.owner = template.id := of_decide_eq_true own
  exact ⟨owned, stem, owned ▸ recordedThere, named.symm⟩

/-- An edge was created in the template that holds it, which it names as its owner. -/
theorem edge_mem (recorded : Recorded builder created)
    (present : template ∈ builder.network.templates.members) {edge : Edge}
    (hosted : edge ∈ template.edges.members) :
    edge.owner = template.id ∧ (⟨edge.id, template.id⟩ : EdgeHandle) ∈ Creation.edges created := by
  have among := List.mem_map_of_mem hosted (f := fun edge => (⟨edge.id, edge.owner⟩ : EdgeHandle))
  rw [recorded.edges_of_mem present] at among
  obtain ⟨recordedThere, own⟩ := List.mem_filter.mp among
  have owned : edge.owner = template.id := of_decide_eq_true own
  exact ⟨owned, owned ▸ recordedThere⟩

/-- The template that an edge names as its owner is the one in which it was found. -/
theorem eq_host (recorded : Recorded builder created) {handle : Option EdgeHandle} {host : Template}
    {present : Edge} (edgeKnown : builder.edgeNamed? handle = some (host, present))
    (known : builder.owner? (some ⟨present.owner⟩) = some owner) : owner = host := by
  obtain ⟨knownHost, found⟩ := Builder.found_of_edgeNamed? edgeKnown
  have own := (recorded.edge_mem (Registry.mem_of_find? knownHost) (Registry.mem_of_find? found)).1
  have knownOwner : builder.network.template? present.owner = some owner := known
  rw [own, knownHost] at knownOwner
  exact (Option.some.inj knownOwner).symm

/-- The numbers of a template's locations are those of the locations created in it. -/
theorem identifiers_locations (recorded : Recorded builder created)
    (present : template ∈ builder.network.templates.members) :
    template.locations.identifiers =
      ((Creation.locations created).filter fun entry => entry.1.template = template.id).map
        fun entry => entry.1.id := by
  have numbers := congrArg (List.map fun entry => entry.1.id) (recorded.locations_of_mem present)
  rw [List.map_map, List.map_map] at numbers
  exact numbers

/-- The numbers of a template's edges are those of the edges created in it. -/
theorem identifiers_edges (recorded : Recorded builder created)
    (present : template ∈ builder.network.templates.members) :
    template.edges.identifiers =
      ((Creation.edges created).filter fun handle => handle.template = template.id).map EdgeHandle.id := by
  rw [← recorded.edges_of_mem present, List.map_map]
  rfl

/-- The number of the next template is free. -/
theorem nextTemplate_notMem (recorded : Recorded builder created) :
    builder.nextTemplate ∉ builder.network.templates.identifiers := by
  rw [recorded.identifiers_templates]
  exact recorded.templates.next_notMem

/-- The number of the next location is free. -/
theorem locationCount_notMem (recorded : Recorded builder created)
    (present : template ∈ builder.network.templates.members) :
    builder.network.locationCount ∉ template.locations.identifiers := by
  rw [recorded.identifiers_locations present]
  exact fun among => recorded.locations.next_notMem (List.map_subset _ (List.filter_subset_self _) among)

/-- The number of the next edge is free. -/
theorem nextEdge_notMem (recorded : Recorded builder created)
    (present : template ∈ builder.network.templates.members) :
    builder.nextEdge ∉ template.edges.identifiers := by
  rw [recorded.identifiers_edges present]
  exact fun among => recorded.edges.next_notMem (List.map_subset _ (List.filter_subset_self _) among)

/-! ### Steps -/

/-- Nothing is created yet in a network that was just started. -/
theorem started (name : String) : Recorded { network := .named name } [] where
  outlines := rfl
  templates := .nil
  locations := .nil
  edges := .nil
  locationHosts _ among := nomatch among
  edgeHosts _ among := nomatch among

/-- Putting a template back with the same outline creates nothing. -/
theorem withTemplate (recorded : Recorded builder created)
    (known : builder.network.template? owner.id = some owner) (same : template.outline = owner.outline) :
    Recorded (builder.withTemplate template) created :=
  { recorded with outlines := (outlines_withTemplate_same known same).trans recorded.outlines }

/-- A new template gets the next number. -/
theorem templateCreated (recorded : Recorded builder created) (name : String) :
    Recorded
      ({ builder with nextTemplate := builder.nextTemplate + 1 }.withTemplate
        { id := builder.nextTemplate, name })
      (created ++ [.template ⟨builder.nextTemplate⟩ name]) := by
  have free := recorded.templates.next_notMem
  have members : (builder.network.templates.put { id := builder.nextTemplate, name }).members =
      builder.network.templates.members ++ [{ id := builder.nextTemplate, name }] :=
    Registry.members_put_of_absent recorded.nextTemplate_notMem
  have noLocation : ∀ entry ∈ Creation.locations created, entry.1.template ≠ builder.nextTemplate :=
    fun entry among same => free (by rw [← same]; exact recorded.locationHosts entry among)
  have noEdge : ∀ handle ∈ Creation.edges created, handle.template ≠ builder.nextTemplate :=
    fun handle among same => free (by rw [← same]; exact recorded.edgeHosts handle among)
  constructor
  case outlines =>
    rw [Creation.outlines_concat_template _ _ noLocation noEdge, ← recorded.outlines]
    show (builder.network.templates.put _).members.map Template.outline = _
    rw [members, List.map_append]
    rfl
  all_goals
    simp only [Creation.templates_concat, Creation.locations_concat, Creation.edges_concat,
      Creation.template?, Creation.location?, Creation.edge?, Option.toList_some, Option.toList_none,
      List.append_nil, List.map_append, List.mem_append]
  case templates => exact recorded.templates.concat
  case locations => exact recorded.locations
  case edges => exact recorded.edges
  case locationHosts => exact fun entry among => .inl (recorded.locationHosts entry among)
  case edgeHosts => exact fun handle among => .inl (recorded.edgeHosts handle among)

/-- A new location gets the next number and stands at the end of its template. -/
theorem locationCreated (recorded : Recorded builder created)
    (known : builder.network.template? owner.id = some owner) (stem : String) :
    Recorded
      ({ builder with network :=
        { builder.network with locationCount := builder.network.locationCount + 1 } }.withLocation owner
          { id := builder.network.locationCount, owner := owner.id,
            name := Build.locationName stem builder.network.locationCount })
      (created ++ [.location ⟨builder.network.locationCount, owner.id⟩ stem]) := by
  have present := Registry.mem_of_find? known
  constructor
  case outlines =>
    rw [Creation.outlines_concat_location, ← recorded.outlines]
    refine outlines_withTemplate known ?_ _
      (outline_putLocation_new (recorded.locationCount_notMem present))
    rfl
  all_goals
    simp only [Creation.templates_concat, Creation.locations_concat, Creation.edges_concat,
      Creation.template?, Creation.location?, Creation.edge?, Option.toList_some, Option.toList_none,
      List.append_nil, List.map_append, List.mem_append]
  case templates => exact recorded.templates
  case locations => exact recorded.locations.concat
  case edges => exact recorded.edges
  case locationHosts =>
    rintro entry (among | among)
    · exact recorded.locationHosts entry among
    · rw [List.mem_singleton.mp among, ← recorded.identifiers_templates]
      exact List.mem_map_of_mem present
  case edgeHosts => exact recorded.edgeHosts

/-- A new edge gets the next number and stands at the end of its template. -/
theorem edgeCreated (recorded : Recorded builder created)
    (known : builder.network.template? owner.id = some owner) :
    Recorded
      ({ builder with nextEdge := builder.nextEdge + 1 }.withEdge owner
        { id := builder.nextEdge, owner := owner.id })
      (created ++ [.edge ⟨builder.nextEdge, owner.id⟩]) := by
  have present := Registry.mem_of_find? known
  constructor
  case outlines =>
    rw [Creation.outlines_concat_edge, ← recorded.outlines]
    refine outlines_withTemplate known ?_ _ (outline_putEdge_new (recorded.nextEdge_notMem present))
    rfl
  all_goals
    simp only [Creation.templates_concat, Creation.locations_concat, Creation.edges_concat,
      Creation.template?, Creation.location?, Creation.edge?, Option.toList_some, Option.toList_none,
      List.append_nil, List.map_append, List.mem_append]
  case templates => exact recorded.templates
  case locations => exact recorded.locations
  case edges => exact recorded.edges.concat
  case locationHosts => exact recorded.locationHosts
  case edgeHosts =>
    rintro handle (among | among)
    · exact recorded.edgeHosts handle among
    · rw [List.mem_singleton.mp among, ← recorded.identifiers_templates]
      exact List.mem_map_of_mem present

end Recorded

/-! ## Every run -/

namespace Command

variable {before after : Builder} {command : Command} {created : List Creation}

/-- A command that creates nothing and goes on with the network leaves what was created. -/
theorem recorded_of_effect (recorded : Recorded before created) (effect : Effect before command after)
    (goesOn : command.restarts = false) (idle : ∀ answer, command.creation? answer = none) :
    Recorded after created := by
  cases effect with
  | kept command => exact recorded
  | started name => cases goesOn
  | cleared => cases goesOn
  | declaredGlobally text => exact { recorded with }
  | declaredForSystem text => exact { recorded with }
  | declaredLocally text known => exact recorded.withTemplate (Builder.template?_of_owner? known) rfl
  | templateCreated name => cases idle (.ok (.template ⟨0⟩))
  | locationCreated stem known => cases idle (.ok (.location ⟨0, 0⟩))
  | initialSet known _ _ => exact recorded.withTemplate (Builder.template?_of_owner? known) rfl
  | @commented _ owner location comment known found =>
    exact recorded.withTemplate (Builder.template?_of_owner? known)
      (outline_commented _ (Registry.find?_identifier found))
  | edgeCreated known => cases idle (.ok (.edge ⟨0, 0⟩))
  | @connected _ host owner present _ location which edgeKnown known _ _ =>
    obtain ⟨knownHost, found⟩ := Builder.found_of_edgeNamed? edgeKnown
    obtain rfl := recorded.eq_host edgeKnown known
    exact recorded.withTemplate knownHost (outline_putEdge found (by simp) (by simp))
  | guarded text known =>
    obtain ⟨knownOwner, found⟩ := Builder.found_of_edgeNamed? known
    exact recorded.withTemplate knownOwner (outline_putEdge found rfl rfl)
  | updated text known =>
    obtain ⟨knownOwner, found⟩ := Builder.found_of_edgeNamed? known
    exact recorded.withTemplate knownOwner (outline_putEdge found rfl rfl)

/-- The answer of a command that puts it together from the result of its work. -/
theorem work_of_answer {α : Type} {work : Build α} {answer : α → Answer} {given : Answer}
    (performs : command.perform = work >>= fun result => pure (answer result))
    (answered : (command.step before).answer = .ok given) :
    ∃ result, (work before).outcome = .ok (result, (command.step before).builder) ∧
      given = answer result := by
  have performed := outcome_bind_pure work answer before
  rw [← performs] at performed
  rw [answer_step, performed] at answered
  rw [builder_step, performed]
  cases outcome : (work before).outcome with
  | error error =>
    rw [outcome] at answered
    cases answered
  | ok result =>
    rw [outcome] at answered
    cases answered
    exact ⟨result.1, rfl, rfl⟩

/-- A command that changes one template fails and changes nothing, or it finds the template that its handle
names. -/
theorem step_of_owner (command : Command) {α : Type} {work : Build α} {answer : α → Answer}
    {handle : Option TemplateHandle} {result : Template → α × Builder}
    (outcome : (work before).outcome =
      match before.owner? handle with
      | some owner => .ok (result owner)
      | none => .error (.unknownTemplate handle))
    (performs : command.perform = work >>= fun made => pure (answer made)) :
    ((∃ error, (command.step before).answer = .error error) ∧ (command.step before).builder = before) ∨
      ∃ owner, before.owner? handle = some owner ∧
        (command.step before).answer = .ok (answer (result owner).1) ∧
        (command.step before).builder = (result owner).2 := by
  have performed := outcome_bind_pure work answer before
  rw [← performs, outcome] at performed
  rw [answer_step, builder_step, performed]
  cases before.owner? handle with
  | none => exact .inl ⟨⟨_, rfl⟩, rfl⟩
  | some owner => exact .inr ⟨owner, rfl, rfl, rfl⟩

/-- One more command keeps the record, with what the command created, or begins it anew. -/
theorem recorded_step (recorded : Recorded before created) (command : Command) :
    Recorded (command.step before).builder
      (if command.restarts then []
        else created ++ (command.creation? (command.step before).answer).toList) := by
  have idle (goesOn : command.restarts = false) (idle : ∀ answer, command.creation? answer = none) :
      Recorded (command.step before).builder
        (if command.restarts then []
          else created ++ (command.creation? (command.step before).answer).toList) := by
    simpa [goesOn, idle] using recorded_of_effect recorded (effect_step command before) goesOn idle
  cases command with
  | newAutomaton name => exact .started name
  | reset => exact .started ""
  | newTemplate name => exact recorded.templateCreated name
  | newLocation stem handle =>
    obtain ⟨⟨error, failed⟩, unchanged⟩ | ⟨owner, known, answered, changed⟩ :=
      step_of_owner (.newLocation stem handle) (Build.outcome_newLocation stem handle before) rfl
    · simpa [failed, unchanged, restarts, creation?] using recorded
    · rw [answered, changed]
      exact recorded.locationCreated (Builder.template?_of_owner? known) stem
  | newEdge handle =>
    obtain ⟨⟨error, failed⟩, unchanged⟩ | ⟨owner, known, answered, changed⟩ :=
      step_of_owner (.newEdge handle) (Build.outcome_newEdge handle before) rfl
    · simpa [failed, unchanged, restarts, creation?] using recorded
    · rw [answered, changed]
      exact recorded.edgeCreated (Builder.template?_of_owner? known)
  | _ => exact idle rfl fun _ => rfl

/-- After every run, the network holds just what was created since the last command that started another
network. -/
theorem recorded_runAll (commands : List Command) :
    Recorded (runAll {} commands) (creations {} commands) := by
  induction commands using List.reverseRecOn with
  | nil => exact .started ""
  | append_singleton earlier command inductionHypothesis =>
    rw [runAll_concat, creations_concat]
    exact recorded_step inductionHypothesis command

end Command

end TraceAutomata
