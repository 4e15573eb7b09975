import TraceAutomata.Proofs.Builder.Failure

/-!
# What a command leaves alone

A builder is taken apart into cells, one for each field of each object under its number, and one for each
sequence of numbers; `Builder.eq_of_read_eq` says that nothing of a builder escapes its cells. `Addresses` says
which cells a command is about: for one that sets something this is one field of the object that its handle
names. `addresses_of_read_ne` proves that a command changes no other cell.
-/

namespace TraceAutomata

/-! ## Cells -/

/-- The fields of a location, apart from its number. -/
inductive LocationField
  | owner
  | name
  | comment
  deriving DecidableEq, Repr

/-- What a field of a location holds. -/
def LocationField.Content : LocationField → Type
  | .owner => Int
  | .name => String
  | .comment => Option String

/-- A field of a location. -/
def Location.read (location : Location) : (field : LocationField) → field.Content
  | .owner => location.owner
  | .name => location.name
  | .comment => location.comment

/-- The fields of an edge, apart from its number. -/
inductive EdgeField
  | owner
  | endAt (which : EdgeEnd)
  | guard
  | updates
  deriving DecidableEq, Repr

/-- What a field of an edge holds. -/
def EdgeField.Content : EdgeField → Type
  | .owner => Int
  | .endAt _ => Option Int
  | .guard => Option Guard
  | .updates => List Update

/-- A field of an edge. -/
def Edge.read (edge : Edge) : (field : EdgeField) → field.Content
  | .owner => edge.owner
  | .endAt which => edge.reference which
  | .guard => edge.guard
  | .updates => edge.updates

/-- The cells of a template: its fields, the numbers of its locations and edges in order, and the fields of
each location and each edge. -/
inductive TemplateCell
  | name
  | declarations
  | initial
  | locations
  | edges
  | location (id : Int) (field : LocationField)
  | edge (id : Int) (field : EdgeField)
  deriving DecidableEq, Repr

/-- What a cell of a template holds. -/
def TemplateCell.Content : TemplateCell → Type
  | .name => String
  | .declarations => List Declaration
  | .initial => Option Int
  | .locations => List Int
  | .edges => List Int
  | .location _ field => Option field.Content
  | .edge _ field => Option field.Content

/-- A cell of a template. -/
def Template.read (template : Template) : (cell : TemplateCell) → cell.Content
  | .name => template.name
  | .declarations => template.declarations
  | .initial => template.initial
  | .locations => template.locations.identifiers
  | .edges => template.edges.identifiers
  | .location id field => (template.location? id).map fun location => location.read field
  | .edge id field => (template.edge? id).map fun edge => edge.read field

/-- The cells of a builder: the fields of its network, its counts, the numbers of its templates in order, and
the cells of each template. -/
inductive Cell
  | name
  | globalDeclarations
  | systemDeclarations
  | locationCount
  | nextTemplate
  | nextEdge
  | templates
  | template (id : Int) (cell : TemplateCell)
  deriving DecidableEq, Repr

/-- What a cell of a builder holds. -/
def Cell.Content : Cell → Type
  | .name => String
  | .globalDeclarations => List Declaration
  | .systemDeclarations => List Declaration
  | .locationCount => Int
  | .nextTemplate => Int
  | .nextEdge => Int
  | .templates => List Int
  | .template _ cell => Option cell.Content

/-- A cell of a builder. -/
def Builder.read (builder : Builder) : (cell : Cell) → cell.Content
  | .name => builder.network.name
  | .globalDeclarations => builder.network.globalDeclarations
  | .systemDeclarations => builder.network.systemDeclarations
  | .locationCount => builder.network.locationCount
  | .nextTemplate => builder.nextTemplate
  | .nextEdge => builder.nextEdge
  | .templates => builder.network.templates.identifiers
  | .template id cell => (builder.network.template? id).map fun template => template.read cell

/-! ## Nothing escapes the cells -/

section Cover

open Identified (identifier)

/-- Objects that were looked up under one number are the same if all their fields are. -/
theorem eq_of_map_read_eq {α : Type} [Identified α] {Field : Type} {Content : Field → Type}
    {read : α → (field : Field) → Content field} {left right : Registry α} {wanted : Int}
    (anyField : Field)
    (same : ∀ field, (left.find? wanted).map (read · field) = (right.find? wanted).map (read · field))
    (determined : ∀ one other : α, identifier one = identifier other →
      (∀ field, read one field = read other field) → one = other) :
    left.find? wanted = right.find? wanted := by
  cases here : left.find? wanted with
  | none =>
    have there := same anyField
    rw [here, Option.map_none] at there
    exact (Option.map_eq_none_iff.mp there.symm).symm
  | some one =>
    have there := same anyField
    rw [here, Option.map_some] at there
    obtain ⟨other, found, _⟩ := Option.map_eq_some_iff.mp there.symm
    rw [found]
    refine congrArg some (determined one other ?_ fun field => ?_)
    · rw [Registry.identifier_of_find? here, Registry.identifier_of_find? found]
    · have fields := same field
      rw [here, found] at fields
      exact Option.some.inj fields

theorem Location.eq_of_read_eq {left right : Location} (id : left.id = right.id)
    (same : ∀ field, left.read field = right.read field) : left = right := by
  have owner : left.owner = right.owner := same .owner
  have name : left.name = right.name := same .name
  have comment : left.comment = right.comment := same .comment
  cases left
  cases right
  simp_all

theorem Edge.eq_of_read_eq {left right : Edge} (id : left.id = right.id)
    (same : ∀ field, left.read field = right.read field) : left = right := by
  have owner : left.owner = right.owner := same .owner
  have source : left.source = right.source := same (.endAt .source)
  have target : left.target = right.target := same (.endAt .target)
  have guard : left.guard = right.guard := same .guard
  have updates : left.updates = right.updates := same .updates
  cases left
  cases right
  simp_all

theorem Template.eq_of_read_eq {left right : Template} (id : left.id = right.id)
    (same : ∀ cell, left.read cell = right.read cell) : left = right := by
  have name : left.name = right.name := same .name
  have declarations : left.declarations = right.declarations := same .declarations
  have initial : left.initial = right.initial := same .initial
  have locations : left.locations = right.locations :=
    Registry.ext_find? (same .locations) fun wanted =>
      eq_of_map_read_eq .owner (fun field => same (.location wanted field)) fun _ _ =>
        Location.eq_of_read_eq
  have edges : left.edges = right.edges :=
    Registry.ext_find? (same .edges) fun wanted =>
      eq_of_map_read_eq .owner (fun field => same (.edge wanted field)) fun _ _ => Edge.eq_of_read_eq
  cases left
  cases right
  simp_all

/-- Two builders with the same cells are the same. -/
theorem Builder.eq_of_read_eq {left right : Builder} (same : ∀ cell, left.read cell = right.read cell) :
    left = right := by
  have name : left.network.name = right.network.name := same .name
  have globals : left.network.globalDeclarations = right.network.globalDeclarations :=
    same .globalDeclarations
  have systems : left.network.systemDeclarations = right.network.systemDeclarations :=
    same .systemDeclarations
  have count : left.network.locationCount = right.network.locationCount := same .locationCount
  have templates : left.network.templates = right.network.templates :=
    Registry.ext_find? (same .templates) fun wanted =>
      eq_of_map_read_eq .name (fun cell => same (.template wanted cell)) fun _ _ => Template.eq_of_read_eq
  have nextTemplate : left.nextTemplate = right.nextTemplate := same .nextTemplate
  have nextEdge : left.nextEdge = right.nextEdge := same .nextEdge
  obtain ⟨⟨_, _, _, _, _⟩, _, _⟩ := left
  obtain ⟨⟨_, _, _, _, _⟩, _, _⟩ := right
  simp_all

end Cover

/-! ## Putting objects back -/

section Put

open Identified (identifier)

/-- Putting a location back changes only the fields of this location in which it is different. -/
theorem Template.read_putLocation {template : Template} {old changed : Location}
    (found : template.location? old.id = some old) (sameId : changed.id = old.id) {cell : TemplateCell}
    (kept : ∀ field, cell = .location old.id field → changed.read field = old.read field) :
    read { template with locations := template.locations.put changed } cell = template.read cell := by
  have present : template.locations.find? (identifier changed) = some old :=
    (congrArg _ sameId).trans found
  cases cell with
  | locations => exact Registry.map_members_put identifier present sameId
  | location id field =>
    exact Registry.map_find?_put (Location.read · field) present fun same =>
      kept field (by rw [← sameId, ← same]; rfl)
  | _ => rfl

/-- Putting an edge back changes only the fields of this edge in which it is different. -/
theorem Template.read_putEdge {template : Template} {old changed : Edge}
    (found : template.edge? old.id = some old) (sameId : changed.id = old.id) {cell : TemplateCell}
    (kept : ∀ field, cell = .edge old.id field → changed.read field = old.read field) :
    read { template with edges := template.edges.put changed } cell = template.read cell := by
  have present : template.edges.find? (identifier changed) = some old :=
    (congrArg _ sameId).trans found
  cases cell with
  | edges => exact Registry.map_members_put identifier present sameId
  | edge id field =>
    exact Registry.map_find?_put (Edge.read · field) present fun same =>
      kept field (by rw [← sameId, ← same]; rfl)
  | _ => rfl

/-- A new location changes the sequence of locations and its own fields only. -/
theorem Template.read_putLocation_new {template : Template} {added : Location} {cell : TemplateCell}
    (order : cell ≠ .locations) (other : ∀ field, cell ≠ .location added.id field) :
    read { template with locations := template.locations.put added } cell = template.read cell := by
  cases cell with
  | locations => exact (order rfl).elim
  | location id field =>
    have apart : added.id ≠ id := fun same => other field (same ▸ rfl)
    have unchanged : (template.locations.put added).find? id = template.locations.find? id :=
      Registry.find?_put_of_ne apart
    exact congrArg (Option.map (Location.read · field)) unchanged
  | _ => rfl

/-- A new edge changes the sequence of edges and its own fields only. -/
theorem Template.read_putEdge_new {template : Template} {added : Edge} {cell : TemplateCell}
    (order : cell ≠ .edges) (other : ∀ field, cell ≠ .edge added.id field) :
    read { template with edges := template.edges.put added } cell = template.read cell := by
  cases cell with
  | edges => exact (order rfl).elim
  | edge id field =>
    have apart : added.id ≠ id := fun same => other field (same ▸ rfl)
    have unchanged : (template.edges.put added).find? id = template.edges.find? id :=
      Registry.find?_put_of_ne apart
    exact congrArg (Option.map (Edge.read · field)) unchanged
  | _ => rfl

/-- Putting a template back changes only the cells of this template in which it is different. -/
theorem Builder.read_withTemplate {builder : Builder} {owner template : Template}
    (known : builder.network.template? owner.id = some owner) (sameId : template.id = owner.id)
    {cell : Cell} (kept : ∀ part, cell = .template owner.id part → template.read part = owner.read part) :
    (builder.withTemplate template).read cell = builder.read cell := by
  have found : builder.network.templates.find? (identifier template) = some owner :=
    (congrArg _ sameId).trans known
  cases cell with
  | templates => exact Registry.map_members_put identifier found sameId
  | template id part =>
    exact Registry.map_find?_put (Template.read · part) found fun same =>
      kept part (by rw [← sameId, ← same]; rfl)
  | _ => rfl

end Put

/-! ## Single changes -/

namespace Builder

variable {builder : Builder} {owner : Template} {cell : Cell}

/-- Putting a location back into its template changes only the fields of this location in which it is
different. -/
theorem read_withLocation (known : builder.network.template? owner.id = some owner) {old changed : Location}
    (found : owner.location? old.id = some old) (sameId : changed.id = old.id)
    (kept : ∀ field, cell = .template owner.id (.location old.id field) →
      changed.read field = old.read field) :
    (builder.withLocation owner changed).read cell = builder.read cell := by
  refine read_withTemplate known (by rfl) fun part same => ?_
  exact Template.read_putLocation found sameId fun field own => kept field (own ▸ same)

/-- Putting an edge back into its template changes only the fields of this edge in which it is different. -/
theorem read_withEdge (known : builder.network.template? owner.id = some owner) {old changed : Edge}
    (found : owner.edge? old.id = some old) (sameId : changed.id = old.id)
    (kept : ∀ field, cell = .template owner.id (.edge old.id field) →
      changed.read field = old.read field) :
    (builder.withEdge owner changed).read cell = builder.read cell := by
  refine read_withTemplate known (by rfl) fun part same => ?_
  exact Template.read_putEdge found sameId fun field own => kept field (own ▸ same)

/-- A created template changes the number of the next one, the sequence of templates and its own cells
only. -/
theorem read_createdTemplate {name : String} (next : cell ≠ .nextTemplate) (order : cell ≠ .templates)
    (other : ∀ part, cell ≠ .template builder.nextTemplate part) :
    ({ builder with nextTemplate := builder.nextTemplate + 1 }.withTemplate
      { id := builder.nextTemplate, name }).read cell = builder.read cell := by
  cases cell with
  | nextTemplate => exact (next rfl).elim
  | templates => exact (order rfl).elim
  | template id part =>
    have apart : builder.nextTemplate ≠ id := fun same => other part (same ▸ rfl)
    have unchanged : (builder.network.templates.put { id := builder.nextTemplate, name }).find? id =
        builder.network.templates.find? id := Registry.find?_put_of_ne apart
    exact congrArg (Option.map (Template.read · part)) unchanged
  | _ => rfl

/-- A created location changes the count of locations, the sequence of locations of its template and its own
fields only. -/
theorem read_createdLocation (known : builder.network.template? owner.id = some owner) {added : Location}
    (numbered : added.id = builder.network.locationCount) (count : cell ≠ .locationCount)
    (order : cell ≠ .template owner.id .locations)
    (other : ∀ field, cell ≠ .template owner.id (.location builder.network.locationCount field)) :
    ({ builder with network :=
      { builder.network with locationCount := builder.network.locationCount + 1 } }.withLocation owner
        added).read cell = builder.read cell := by
  have counted : ({ builder with network :=
      { builder.network with locationCount := builder.network.locationCount + 1 } } : Builder).read cell =
        builder.read cell := by
    cases cell with
    | locationCount => exact (count rfl).elim
    | _ => rfl
  -- The template is put into the builder that has counted already, so the count goes first.
  rw [← counted]
  apply read_withTemplate
  case known => exact known
  case sameId => rfl
  case kept =>
    intro part same
    refine Template.read_putLocation_new (fun locations => ?_) fun field own => ?_
    · exact order (locations ▸ same)
    · exact other field (numbered ▸ own ▸ same)

/-- A created edge changes the number of the next one, the sequence of edges of its template and its own fields
only. -/
theorem read_createdEdge (known : builder.network.template? owner.id = some owner) {added : Edge}
    (numbered : added.id = builder.nextEdge) (next : cell ≠ .nextEdge)
    (order : cell ≠ .template owner.id .edges)
    (other : ∀ field, cell ≠ .template owner.id (.edge builder.nextEdge field)) :
    ({ builder with nextEdge := builder.nextEdge + 1 }.withEdge owner added).read cell =
      builder.read cell := by
  have counted : ({ builder with nextEdge := builder.nextEdge + 1 } : Builder).read cell =
      builder.read cell := by
    cases cell with
    | nextEdge => exact (next rfl).elim
    | _ => rfl
  rw [← counted]
  apply read_withTemplate
  case known => exact known
  case sameId => rfl
  case kept =>
    intro part same
    refine Template.read_putEdge_new (fun edges => ?_) fun field own => ?_
    · exact order (edges ▸ same)
    · exact other field (numbered ▸ own ▸ same)

/-- An edge that is connected changes at this end only. -/
theorem read_connectedEdge (known : builder.network.template? owner.id = some owner) {present : Edge}
    (found : owner.edge? present.id = some present) {which : EdgeEnd} {location : Int}
    (elsewhere : cell ≠ .template owner.id (.edge present.id (.endAt which))) :
    (builder.withEdge owner (present.withEnd which location)).read cell = builder.read cell := by
  refine read_withEdge known found (Edge.id_withEnd _ _ _) fun field own => ?_
  cases field with
  | endAt other =>
    have apart : ¬other = which := by
      rintro rfl
      exact elsewhere own
    exact (Edge.reference_withEnd _ _ _ _).trans (if_neg apart)
  | _ => cases which <;> rfl

end Builder

/-! ## What a command is about -/

namespace Builder

variable {builder : Builder} {owner : Template}

/-- A template handle names the template by its number. -/
theorem handle_of_owner? {handle : Option TemplateHandle} (known : builder.owner? handle = some owner) :
    handle = some ⟨owner.id⟩ := by
  obtain ⟨named, rfl, found⟩ := Option.bind_eq_some_iff.mp known
  have same : owner.id = named.id := Registry.identifier_of_find? found
  rw [same]

/-- An edge that is found in a template is named by its number and the one of the template. -/
theorem edgeNamed?_eq_some {handle : EdgeHandle} {edge : Edge}
    (foundOwner : builder.network.template? handle.template = some owner)
    (foundEdge : owner.edge? handle.id = some edge) :
    builder.edgeNamed? (some handle) = some (owner, edge) := by
  show (builder.network.template? handle.template).bind _ = _
  rw [foundOwner, Option.bind_some]
  show (owner.edge? handle.id).bind _ = _
  rw [foundEdge]
  rfl

/-- An edge handle names the template and the edge by their numbers. -/
theorem handle_of_edgeNamed? {handle : Option EdgeHandle} {edge : Edge}
    (known : builder.edgeNamed? handle = some (owner, edge)) : handle = some ⟨edge.id, owner.id⟩ := by
  obtain ⟨named, rfl, afterHandle⟩ := Option.bind_eq_some_iff.mp known
  obtain ⟨template, foundTemplate, afterTemplate⟩ := Option.bind_eq_some_iff.mp afterHandle
  obtain ⟨present, foundEdge, answered⟩ := Option.bind_eq_some_iff.mp afterTemplate
  cases answered
  have sameTemplate : owner.id = named.template := Registry.identifier_of_find? foundTemplate
  have sameEdge : edge.id = named.id := Registry.identifier_of_find? foundEdge
  rw [sameTemplate, sameEdge]

end Builder

namespace Command

/-- The cells that a command is about. One that starts another network is about all of them, one that
creates an object about the object and its number, and one that sets something about this field of the object
that its handle names. -/
def Addresses (before : Builder) : Command → Cell → Prop
  | .newAutomaton _, _ => True
  | .reset, _ => True
  | .finalize, _ => False
  | .addGlobalDeclaration _, cell => cell = .globalDeclarations
  | .addSystemDeclaration _, cell => cell = .systemDeclarations
  | .addLocalDeclaration handle _, cell =>
    ∃ named, handle = some named ∧ cell = .template named.id .declarations
  | .newTemplate _, cell =>
    cell = .nextTemplate ∨ cell = .templates ∨ ∃ part, cell = .template before.nextTemplate part
  | .newLocation _ handle, cell =>
    ∃ named, handle = some named ∧ (cell = .locationCount ∨ cell = .template named.id .locations ∨
      ∃ field, cell = .template named.id (.location before.network.locationCount field))
  | .setInitialLocation _ handle, cell =>
    ∃ named, handle = some named ∧ cell = .template named.id .initial
  | .setLocationComment location _, cell =>
    ∃ named, location = some named ∧ cell = .template named.template (.location named.id .comment)
  | .newEdge handle, cell =>
    ∃ named, handle = some named ∧ (cell = .nextEdge ∨ cell = .template named.id .edges ∨
      ∃ field, cell = .template named.id (.edge before.nextEdge field))
  | .setEdgeEnd which edge _, cell =>
    ∃ named, edge = some named ∧ cell = .template named.template (.edge named.id (.endAt which))
  | .setEdgeGuard edge _, cell =>
    ∃ named, edge = some named ∧ cell = .template named.template (.edge named.id .guard)
  | .addEdgeUpdate edge _, cell =>
    ∃ named, edge = some named ∧ cell = .template named.template (.edge named.id .updates)

/-- A change that a command makes in a sound network leaves every cell alone that the command is not about. -/
theorem read_of_effect {before after : Builder} {command : Command} (sound : before.network.Sound)
    (effect : Effect before command after) {cell : Cell} (outside : ¬command.Addresses before cell) :
    after.read cell = before.read cell := by
  cases effect with
  | kept command => rfl
  | started name => exact (outside trivial).elim
  | cleared => exact (outside trivial).elim
  | declaredGlobally text =>
    cases cell with
    | globalDeclarations => exact (outside rfl).elim
    | _ => rfl
  | declaredForSystem text =>
    cases cell with
    | systemDeclarations => exact (outside rfl).elim
    | _ => rfl
  | declaredLocally text known =>
    obtain rfl := Builder.handle_of_owner? known
    refine Builder.read_withTemplate (Builder.template?_of_owner? known) (by rfl) fun part same => ?_
    cases part with
    | declarations => exact (outside ⟨_, rfl, same⟩).elim
    | _ => rfl
  | templateCreated name =>
    exact Builder.read_createdTemplate (fun next => outside (.inl next))
      (fun order => outside (.inr (.inl order))) fun part own => outside (.inr (.inr ⟨part, own⟩))
  | locationCreated stem known =>
    obtain rfl := Builder.handle_of_owner? known
    exact Builder.read_createdLocation (Builder.template?_of_owner? known) (by rfl)
      (fun count => outside ⟨_, rfl, .inl count⟩) (fun order => outside ⟨_, rfl, .inr (.inl order)⟩)
      fun field own => outside ⟨_, rfl, .inr (.inr ⟨field, own⟩)⟩
  | initialSet known own found =>
    obtain rfl := Builder.handle_of_owner? known
    refine Builder.read_withTemplate (Builder.template?_of_owner? known) (by rfl) fun part same => ?_
    cases part with
    | initial => exact (outside ⟨_, rfl, same⟩).elim
    | _ => rfl
  | @commented named owner location comment known found =>
    have sameOwner : owner.id = named.template := Registry.identifier_of_find? known
    have sameLocation : location.id = named.id := Registry.identifier_of_find? found
    rw [← sameLocation] at found
    refine Builder.read_withLocation (Builder.template?_of_owner? known) found (by rfl) fun field own => ?_
    cases field with
    | comment => exact (outside ⟨named, rfl, by rw [own, sameOwner, sameLocation]⟩).elim
    | _ => rfl
  | edgeCreated known =>
    obtain rfl := Builder.handle_of_owner? known
    exact Builder.read_createdEdge (Builder.template?_of_owner? known) (by rfl)
      (fun next => outside ⟨_, rfl, .inl next⟩) (fun order => outside ⟨_, rfl, .inr (.inl order)⟩)
      fun field own => outside ⟨_, rfl, .inr (.inr ⟨field, own⟩)⟩
  | @connected _ host owner present _ location which edgeKnown known _ _ =>
    obtain rfl := Builder.handle_of_edgeNamed? edgeKnown
    obtain ⟨knownHost, found⟩ := Builder.found_of_edgeNamed? edgeKnown
    -- The edge goes back into the template that it names as its owner, which is where it was found.
    obtain rfl : host = owner :=
      Option.some.inj ((Builder.owner?_of_edgeNamed? sound edgeKnown).2.symm.trans known)
    exact Builder.read_connectedEdge knownHost found fun own => outside ⟨_, rfl, own⟩
  | guarded text known =>
    obtain rfl := Builder.handle_of_edgeNamed? known
    obtain ⟨knownOwner, found⟩ := Builder.found_of_edgeNamed? known
    refine Builder.read_withEdge knownOwner found (by rfl) fun field own => ?_
    cases field with
    | guard => exact (outside ⟨_, rfl, own⟩).elim
    | endAt which => cases which <;> rfl
    | _ => rfl
  | updated text known =>
    obtain rfl := Builder.handle_of_edgeNamed? known
    obtain ⟨knownOwner, found⟩ := Builder.found_of_edgeNamed? known
    refine Builder.read_withEdge knownOwner found (by rfl) fun field own => ?_
    cases field with
    | updates => exact (outside ⟨_, rfl, own⟩).elim
    | endAt which => cases which <;> rfl
    | _ => rfl

/-- A cell that a command changes in a sound network is one that the command is about. -/
theorem addresses_of_read_ne {before : Builder} (sound : before.network.Sound) (command : Command)
    {cell : Cell} (changed : (command.step before).builder.read cell ≠ before.read cell) :
    command.Addresses before cell := by
  by_contra outside
  exact changed (read_of_effect sound (effect_step command before) outside)

end Command

end TraceAutomata
