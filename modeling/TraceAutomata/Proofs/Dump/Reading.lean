import TraceAutomata.Dump
import TraceAutomata.Proofs.Document.Mapping
import TraceAutomata.Proofs.Journal
import TraceAutomata.Proofs.Registry

/-!
# Reading what a dump was written as

A dump is read from the value it was written as, or from another one that is related to it: `Recognises`
gathers what reading asks of such a relation. The value does not hold owners and has null for what is unset,
so only a dump with the owners that reading gives, and without null for what is set, can come back. `Settled`
says this of a dump; every dump that was read is settled (`settled_of_ofValue`), and a settled dump is read
from its own value (`ofValue_of_related`).
-/

namespace TraceAutomata

namespace Dump

/-! ## Fields of a mapping -/

theorem text_injective : Function.Injective DumpKey.text := by
  intro left right same
  revert same
  cases left <;> cases right <;> simp [DumpKey.text]

/-- The fields of a mapping under the texts of their keys. -/
def keyed (fields : List (DumpKey × Value)) : List (String × Value) :=
  fields.map fun field => (field.1.text, field.2)

theorem mapping_eq (fields : List (DumpKey × Value)) :
    mapping fields = .mapping (Value.textEntries (keyed fields)) := by
  rw [mapping, keyed, Value.textEntries, List.map_map]
  rfl

theorem mem_keyed {fields : List (DumpKey × Value)} {key : DumpKey} {value : Value}
    (held : (key, value) ∈ fields) : (key.text, value) ∈ keyed fields :=
  List.mem_map_of_mem (f := fun field => (field.1.text, field.2)) held

/-- Different keys have different texts. -/
theorem nodup_keyed {fields : List (DumpKey × Value)} (distinct : (fields.map Prod.fst).Nodup) :
    ((keyed fields).map Prod.fst).Nodup := by
  have texts : (keyed fields).map Prod.fst = (fields.map Prod.fst).map DumpKey.text := by
    rw [keyed, List.map_map, List.map_map]
    rfl
  rw [texts]
  exact distinct.map text_injective

/-! ## Related values -/

/-- A value is related to no other. -/
def Fixed (Related : Value → Value → Prop) (value : Value) : Prop :=
  ∀ found, Related found value → found = value

/-- What reading asks of values that are related to what was written: fields are found under their keys,
members in order, and numbers and null are themselves. -/
structure Recognises (Related : Value → Value → Prop) : Prop where
  mapping : ∀ {found fields}, (fields.map Prod.fst).Nodup → Related found (mapping fields) →
    ∃ entries, found = .mapping entries ∧ ∀ key value, (key, value) ∈ fields →
      ∃ there, Value.lookup key.text entries = some there ∧ Related there value
  list : ∀ {found items}, Related found (.list items) →
    ∃ others, found = .list others ∧ List.Forall₂ Related others items
  integer : ∀ number, Fixed Related (.integer number)
  null : Fixed Related .null

/-- Equality is such a relation. -/
theorem recognises_eq : Recognises Eq where
  mapping distinct same := ⟨_, same.trans (mapping_eq _), fun _ value held =>
    ⟨value, Value.lookup_textEntries (nodup_keyed distinct) (mem_keyed held), rfl⟩⟩
  list same := ⟨_, same, List.forall₂_refl _⟩
  integer _ _ same := same
  null _ same := same

/-- Being the same up to the order of entries is such a relation. -/
theorem recognises_sameUpToOrder : Recognises fun found value => found.sameUpToOrder value = true where
  mapping _ same := by
    rw [mapping_eq, Value.sameUpToOrder_mapping_iff] at same
    obtain ⟨entries, rfl, _, holds⟩ := same
    exact ⟨entries, rfl, fun key value held => holds _ (mem_keyed held)⟩
  list same := Value.sameUpToOrder_list_iff.mp same
  integer _ _ same := Value.eq_of_sameUpToOrder rfl same
  null _ same := Value.eq_of_sameUpToOrder rfl same

variable {Related : Value → Value → Prop} {found : Value} {fields : List (DumpKey × Value)}

/-- Under each key a value is found that is related to the one of the field. -/
def Shows (Related : Value → Value → Prop) (found : Value) (fields : List (DumpKey × Value)) : Prop :=
  ∀ key value, (key, value) ∈ fields → ∃ there, Related there value ∧
    field? key found = .ok (some there) ∧ field key found = .ok there

theorem shows_of_related (laws : Recognises Related) (distinct : (fields.map Prod.fst).Nodup)
    (related : Related found (mapping fields)) : Shows Related found fields := by
  intro key value held
  obtain ⟨entries, rfl, holds⟩ := laws.mapping distinct related
  obtain ⟨there, looked, same⟩ := holds key value held
  exact ⟨there, same, by simp [field?, Value.content, looked], by simp [field, Value.content, looked]⟩

section Fields

variable (shows : Shows Related found fields) (key : DumpKey)
include shows

/-- A field that is related to no other value is read as it is. -/
theorem field_eq {value : Value} (held : (key, value) ∈ fields) (fixed : Fixed Related value) :
    field? key found = .ok (some value) ∧ field key found = .ok value := by
  obtain ⟨there, same, optional, needed⟩ := shows key value held
  obtain rfl := fixed there same
  exact ⟨optional, needed⟩

theorem membersAt_eq (laws : Recognises Related) (items : List Value)
    (held : (key, .list items) ∈ fields) :
    ∃ others, membersAt key found = .ok others ∧ List.Forall₂ Related others items := by
  obtain ⟨there, same, optional, _⟩ := shows key _ held
  obtain ⟨others, rfl, members⟩ := laws.list same
  exact ⟨others, by rw [membersAt, optional]; rfl, members⟩

/-- Expressions that hold fixed values are read as they are. -/
theorem expressionsAt_eq (laws : Recognises Related) {role : Role}
    {expressions : List (Expression role Value)} (held : (key, contents expressions) ∈ fields)
    (fixed : ∀ expression ∈ expressions, Fixed Related expression.text) :
    expressionsAt role key found = .ok expressions := by
  obtain ⟨others, read, members⟩ := membersAt_eq shows key laws _ held
  have same : others = expressions.map Expression.text := by
    clear held read
    rw [List.forall₂_map_right_iff] at members
    induction members with
    | nil => rfl
    | cons first _ inductionHypothesis =>
      rw [List.forall_mem_cons] at fixed
      rw [fixed.1 _ first, inductionHypothesis fixed.2, List.map_cons]
  have restored : (expressions.map Expression.text).map
      (fun content => (⟨content⟩ : Expression role Value)) = expressions := by
    rw [List.map_map]
    exact List.map_id _
  rw [expressionsAt, read, same]
  exact congrArg Except.ok restored

end Fields

end Dump

/-! ## Dumps that reading can give -/

/-- The location names the owner and has no null for a comment. -/
def Location.SettledIn (owner : Int) (location : Location Value) : Prop :=
  location.owner = owner ∧ location.comment ≠ some .null

/-- The edge names the owner and has no null for a guard. -/
def Edge.SettledIn (owner : Int) (edge : Edge Value) : Prop :=
  edge.owner = owner ∧ edge.guard ≠ some ⟨.null⟩

/-- Locations and edges name the template as their owner, and null stands for nothing that is set. -/
structure Template.Settled (template : Template Value) : Prop where
  locations : ∀ location ∈ template.locations.members, location.SettledIn template.id
  edges : ∀ edge ∈ template.edges.members, edge.SettledIn template.id

/-- Every template is settled. -/
def Dump.Settled (dump : Dump) : Prop :=
  ∀ template ∈ dump.templates.members, template.Settled

/-! What stands in the place of texts has a property. -/

section All

variable (Holds : Value → Prop)

/-- The name and the comment of a location have a property. -/
structure Location.All (location : Location Value) : Prop where
  name : Holds location.name
  comment : ∀ content, location.comment = some content → Holds content

/-- The guard and the updates of an edge have a property. -/
structure Edge.All (edge : Edge Value) : Prop where
  guard : ∀ condition, edge.guard = some condition → Holds condition.text
  updates : ∀ update ∈ edge.updates, Holds update.text

/-- The name, the declarations, the locations and the edges of a template have a property. -/
structure Template.All (template : Template Value) : Prop where
  name : Holds template.name
  declarations : ∀ declaration ∈ template.declarations, Holds declaration.text
  locations : ∀ location ∈ template.locations.members, location.All Holds
  edges : ∀ edge ∈ template.edges.members, edge.All Holds

/-- Every name, comment and expression of a dump has a property, and its count of locations has it. -/
structure Dump.All (dump : Dump) : Prop where
  name : Holds dump.name
  globalDeclarations : ∀ declaration ∈ dump.globalDeclarations, Holds declaration.text
  systemDeclarations : ∀ declaration ∈ dump.systemDeclarations, Holds declaration.text
  templates : ∀ template ∈ dump.templates.members, template.All Holds
  locationCount : Holds dump.locationCount

end All

/-- A property that follows holds of a dump as well. -/
theorem Dump.All.mono {First Second : Value → Prop} (follows : ∀ value, First value → Second value)
    {dump : Dump} (all : dump.All First) : dump.All Second where
  name := follows _ all.name
  globalDeclarations declaration present := follows _ (all.globalDeclarations declaration present)
  systemDeclarations declaration present := follows _ (all.systemDeclarations declaration present)
  locationCount := follows _ all.locationCount
  templates template present :=
    let inner := all.templates template present
    { name := follows _ inner.name
      declarations := fun declaration among => follows _ (inner.declarations declaration among)
      locations := fun location among =>
        { name := follows _ (inner.locations location among).name
          comment := fun content set => follows _ ((inner.locations location among).comment content set) }
      edges := fun edge among =>
        { guard := fun condition set => follows _ ((inner.edges edge among).guard condition set)
          updates := fun update here => follows _ ((inner.edges edge among).updates update here) } }

/-- A property of all values holds of a dump. -/
theorem Dump.All.of_forall {Holds : Value → Prop} (every : ∀ value, Holds value) (dump : Dump) :
    dump.All Holds where
  name := every _
  globalDeclarations _ _ := every _
  systemDeclarations _ _ := every _
  locationCount := every _
  templates _ _ := ⟨every _, fun _ _ => every _, fun _ _ => ⟨every _, fun _ _ => every _⟩,
    fun _ _ => ⟨fun _ _ => every _, fun _ _ => every _⟩⟩

/-! ## Reading -/

namespace Dump

variable {Related : Value → Value → Prop} {found : Value}

theorem unlessNull_optional {content : Option Value} (settled : content ≠ some .null) :
    unlessNull (some (optional content)) = content := by
  cases content with
  | none => rfl
  | some value =>
    cases value with
    | null => exact absurd rfl settled
    | _ => rfl

theorem referenceOf_optionalReference (reference : Option Int) :
    referenceOf (some (optionalReference reference)) = .ok reference := by
  cases reference <;> rfl

theorem fixed_optional (laws : Recognises Related) {content : Option Value}
    (fixed : ∀ value, content = some value → Fixed Related value) : Fixed Related (optional content) := by
  cases content with
  | none => exact laws.null
  | some value => exact fixed value rfl

theorem fixed_optionalReference (laws : Recognises Related) (reference : Option Int) :
    Fixed Related (optionalReference reference) := by
  cases reference with
  | none => exact laws.null
  | some number => exact laws.integer number

/-- A location is read from what it was written as. -/
theorem readLocation_of_related (laws : Recognises Related) {owner : Int} {location : Location Value}
    (settled : location.SettledIn owner) (fixed : location.All (Fixed Related))
    (related : Related found location.toValue) : readLocation owner found = .ok location := by
  obtain ⟨rfl, notNull⟩ := settled
  have shows := shows_of_related laws (by simp) related
  have id := (field_eq shows .id (by simp) (laws.integer location.id)).2
  have name := (field_eq shows .name (by simp) fixed.name).2
  have comment := (field_eq shows .comment (by simp)
    (fixed_optional laws fixed.comment)).1
  simp only [readLocation, id, name, comment, integerOf, unlessNull_optional notNull, bind, Except.bind,
    pure, Except.pure]

/-- An edge is read from what it was written as. -/
theorem readEdge_of_related (laws : Recognises Related) {owner : Int} {edge : Edge Value}
    (settled : edge.SettledIn owner) (fixed : edge.All (Fixed Related))
    (related : Related found edge.toValue) : readEdge owner found = .ok edge := by
  obtain ⟨rfl, notNull⟩ := settled
  have shows := shows_of_related laws (by simp) related
  have id := (field_eq shows .id (by simp) (laws.integer edge.id)).2
  have source := (field_eq shows .source (by simp)
    (fixed_optionalReference laws edge.source)).1
  have target := (field_eq shows .target (by simp)
    (fixed_optionalReference laws edge.target)).1
  have guardFixed : ∀ value, edge.guard.map Expression.text = some value → Fixed Related value := by
    intro value held
    obtain ⟨condition, set, rfl⟩ := Option.map_eq_some_iff.mp held
    exact fixed.guard condition set
  have guard := (field_eq shows .guard (by simp)
    (fixed_optional laws guardFixed)).1
  have guardSettled : edge.guard.map Expression.text ≠ some .null := by
    intro held
    obtain ⟨condition, set, null⟩ := Option.map_eq_some_iff.mp held
    exact notNull (by rw [set, ← null])
  have updates := expressionsAt_eq shows .updates laws (by simp) fixed.updates
  have restored : (edge.guard.map Expression.text).map (fun content => (⟨content⟩ : Guard Value)) =
      edge.guard := by
    simp [Function.comp_def]
  simp only [readEdge, id, source, target, guard, updates, integerOf, referenceOf_optionalReference,
    unlessNull_optional guardSettled, restored, bind, Except.bind, pure, Except.pure]

/-- Members are read one by one from what they were written as. -/
theorem mapM_of_related {Member : Type} {write : Member → Value} (read : Value → Reading Member)
    {members : List Member} {others : List Value}
    (each : ∀ member ∈ members, ∀ there, Related there (write member) → read there = .ok member)
    (related : List.Forall₂ Related others (members.map write)) : others.mapM read = .ok members := by
  rw [List.forall₂_map_right_iff] at related
  induction related with
  | nil => rfl
  | cons first _ inductionHypothesis =>
    rw [List.forall_mem_cons] at each
    rw [List.mapM_cons, each.1 _ first, inductionHypothesis each.2]
    rfl

/-- A template is read from what it was written as. -/
theorem readTemplate_of_related (laws : Recognises Related) {template : Template Value}
    (settled : template.Settled) (fixed : template.All (Fixed Related))
    (related : Related found template.toValue) : readTemplate found = .ok template := by
  have shows := shows_of_related laws (by simp) related
  have id := (field_eq shows .id (by simp) (laws.integer template.id)).2
  have name := (field_eq shows .name (by simp) fixed.name).2
  have initial := (field_eq shows .init (by simp)
    (fixed_optionalReference laws template.initial)).1
  have declarations := expressionsAt_eq shows .declarations laws (by simp) fixed.declarations
  obtain ⟨locationValues, locationsAt, locationsRelated⟩ := membersAt_eq shows .locations laws
    (template.locations.members.map Location.toValue) (by simp)
  obtain ⟨edgeValues, edgesAt, edgesRelated⟩ := membersAt_eq shows .edges laws
    (template.edges.members.map Edge.toValue) (by simp)
  have locations := mapM_of_related (readLocation template.id) (fun location present _ =>
    readLocation_of_related laws (settled.locations location present)
      (fixed.locations location present)) locationsRelated
  have edges := mapM_of_related (readEdge template.id) (fun edge present _ =>
    readEdge_of_related laws (settled.edges edge present) (fixed.edges edge present)) edgesRelated
  simp only [readTemplate, id, name, initial, declarations, locationsAt, edgesAt, locations, edges,
    integerOf, referenceOf_optionalReference, Registry.ofList_members, bind, Except.bind, pure, Except.pure]

/-- A dump is read from what it was written as. -/
theorem ofValue_of_related (laws : Recognises Related) {dump : Dump} (settled : dump.Settled)
    (fixed : dump.All (Fixed Related)) (related : Related found dump.toValue) :
    Dump.ofValue found = .ok dump := by
  have shows := shows_of_related laws (by simp) related
  have name := (field_eq shows .name (by simp) fixed.name).1
  have count := (field_eq shows .locationCount (by simp) fixed.locationCount).1
  have globals := expressionsAt_eq shows .globalDeclarations laws (by simp) fixed.globalDeclarations
  have systems := expressionsAt_eq shows .systemDeclarations laws (by simp) fixed.systemDeclarations
  obtain ⟨templateValues, templatesAt, templatesRelated⟩ := membersAt_eq shows .templates laws
    (dump.templates.members.map Template.toValue) (by simp)
  have templates := mapM_of_related readTemplate (fun template present _ =>
    readTemplate_of_related laws (settled template present) (fixed.templates template present))
    templatesRelated
  simp only [Dump.ofValue, name, count, globals, systems, templatesAt, templates, Registry.ofList_members,
    Option.getD_some, bind, Except.bind, pure, Except.pure]

/-- A settled dump is read from its own value. -/
theorem ofValue_toValue {dump : Dump} (settled : dump.Settled) : Dump.ofValue dump.toValue = .ok dump :=
  ofValue_of_related recognises_eq settled (.of_forall (fun _ _ same => same) dump) rfl

/-! ## What was read is settled -/

/-- Values are read one by one. -/
theorem mapM_eq_ok_iff {Member : Type} {read : Value → Reading Member} {values : List Value}
    {members : List Member} :
    values.mapM read = .ok members ↔
      List.Forall₂ (fun value member => read value = .ok member) values members := by
  constructor
  · intro succeeded
    induction values generalizing members with
    | nil =>
      obtain rfl := Except.ok.inj succeeded
      exact .nil
    | cons first rest inductionHypothesis =>
      rw [List.mapM_cons] at succeeded
      obtain ⟨head, headRead, afterHead⟩ := bind_eq_ok succeeded
      obtain ⟨tail, tailRead, afterTail⟩ := bind_eq_ok afterHead
      obtain rfl := Except.ok.inj afterTail
      exact .cons headRead (inductionHypothesis tailRead)
  · intro each
    induction each with
    | nil => rfl
    | cons first _ inductionHypothesis =>
      rw [List.mapM_cons, first, inductionHypothesis]
      rfl

/-- What was read as members was read from members. -/
theorem exists_of_mapM {Member : Type} {read : Value → Reading Member} {values : List Value}
    {members : List Member} (succeeded : values.mapM read = .ok members) :
    ∀ member ∈ members, ∃ value ∈ values, read value = .ok member := by
  have each := mapM_eq_ok_iff.mp succeeded
  clear succeeded
  induction each with
  | nil => simp
  | cons first _ inductionHypothesis =>
    simp only [List.forall_mem_cons, List.exists_mem_cons_iff]
    exact ⟨.inl first, fun member present => .inr (inductionHypothesis member present)⟩

/-- A registry is gathered from the members under a key: they are read one by one and put one after another. -/
def Gathered {Member : Type} [Identified Member] (key : DumpKey) (read : Value → Reading Member) (value : Value)
    (registry : Registry Member) : Prop :=
  ∃ items members, membersAt key value = .ok items ∧
    List.Forall₂ (fun item member => read item = .ok member) items members ∧
    registry = .ofList members

/-- A value has all the parts of a template. -/
structure TemplateParts (value : Value) (template : Template Value) : Prop where
  id : field .id value = .ok (.integer template.id)
  name : field .name value = .ok template.name
  declarations : expressionsAt .declaration .declarations value = .ok template.declarations
  locations : Gathered .locations (readLocation template.id) value template.locations
  edges : Gathered .edges (readEdge template.id) value template.edges
  initial : ∃ found, field? .init value = .ok found ∧ referenceOf found = .ok template.initial

theorem integerOf_eq_ok_iff {value : Value} {number : Int} :
    integerOf value = .ok number ↔ value = .integer number := by
  cases value <;> simp [integerOf]

/-- A template is read from a value that has its parts. -/
theorem readTemplate_eq_ok_iff {value : Value} {template : Template Value} :
    readTemplate value = .ok template ↔ TemplateParts value template := by
  constructor
  · intro succeeded
    obtain ⟨_, idRead, afterId⟩ := bind_eq_ok succeeded
    obtain ⟨_, nameRead, afterName⟩ := bind_eq_ok afterId
    obtain ⟨_, initialRead, afterInitial⟩ := bind_eq_ok afterName
    obtain ⟨owner, ownerRead, afterOwner⟩ := bind_eq_ok afterInitial
    obtain ⟨_, declarationsRead, afterDeclarations⟩ := bind_eq_ok afterOwner
    obtain ⟨_, locationItems, afterLocationItems⟩ := bind_eq_ok afterDeclarations
    obtain ⟨locations, locationsRead, afterLocations⟩ := bind_eq_ok afterLocationItems
    obtain ⟨_, edgeItems, afterEdgeItems⟩ := bind_eq_ok afterLocations
    obtain ⟨edges, edgesRead, afterEdges⟩ := bind_eq_ok afterEdgeItems
    obtain ⟨_, referenceRead, afterReference⟩ := bind_eq_ok afterEdges
    obtain rfl := Except.ok.inj afterReference
    obtain rfl := integerOf_eq_ok_iff.mp ownerRead
    exact {
      id := idRead
      name := nameRead
      declarations := declarationsRead
      locations := ⟨_, locations, locationItems, mapM_eq_ok_iff.mp locationsRead, rfl⟩
      edges := ⟨_, edges, edgeItems, mapM_eq_ok_iff.mp edgesRead, rfl⟩
      initial := ⟨_, initialRead, referenceRead⟩ }
  · rintro ⟨id, name, declarations, ⟨_, _, locationItems, locationsRead, locations⟩,
      ⟨_, _, edgeItems, edgesRead, edges⟩, _, initialRead, initial⟩
    rw [← mapM_eq_ok_iff] at locationsRead edgesRead
    simp only [readTemplate, id, name, initialRead, integerOf, declarations, locationItems, locationsRead,
      edgeItems, edgesRead, initial, ← locations, ← edges, bind, Except.bind, pure, Except.pure]

/-- A value has all the parts of a dump. -/
structure Parts (value : Value) (dump : Dump) : Prop where
  name : ∃ found, field? .name value = .ok found ∧ dump.name = found.getD (.text "")
  globalDeclarations : expressionsAt .declaration .globalDeclarations value = .ok dump.globalDeclarations
  systemDeclarations : expressionsAt .declaration .systemDeclarations value = .ok dump.systemDeclarations
  templates : Gathered .templates readTemplate value dump.templates
  locationCount : ∃ found, field? .locationCount value = .ok found ∧
    dump.locationCount = found.getD (.integer (countLocations dump.templates))

/-- A dump is read from a value that has its parts. -/
theorem ofValue_eq_ok_iff {value : Value} {dump : Dump} :
    Dump.ofValue value = .ok dump ↔ Parts value dump := by
  constructor
  · intro succeeded
    obtain ⟨_, nameRead, afterName⟩ := bind_eq_ok succeeded
    obtain ⟨_, globalsRead, afterGlobals⟩ := bind_eq_ok afterName
    obtain ⟨_, systemsRead, afterSystems⟩ := bind_eq_ok afterGlobals
    obtain ⟨_, templateItems, afterTemplateItems⟩ := bind_eq_ok afterSystems
    obtain ⟨templates, templatesRead, afterTemplates⟩ := bind_eq_ok afterTemplateItems
    obtain ⟨_, countRead, afterCount⟩ := bind_eq_ok afterTemplates
    obtain rfl := Except.ok.inj afterCount
    exact {
      name := ⟨_, nameRead, rfl⟩
      globalDeclarations := globalsRead
      systemDeclarations := systemsRead
      templates := ⟨_, templates, templateItems, mapM_eq_ok_iff.mp templatesRead, rfl⟩
      locationCount := ⟨_, countRead, rfl⟩ }
  · rintro ⟨⟨_, nameRead, name⟩, globals, systems, ⟨_, _, templateItems, templatesRead, templates⟩, _,
      countRead, count⟩
    rw [← mapM_eq_ok_iff] at templatesRead
    simp only [Dump.ofValue, nameRead, ← name, globals, systems, templateItems, templatesRead, ← templates,
      countRead, ← count, bind, Except.bind, pure, Except.pure]

theorem unlessNull_ne_null (content : Option Value) : unlessNull content ≠ some .null := by
  rcases content with _ | value
  · simp [unlessNull]
  · cases value <;> simp [unlessNull]

theorem settledIn_of_readLocation {owner : Int} {value : Value} {location : Location Value}
    (succeeded : readLocation owner value = .ok location) : location.SettledIn owner := by
  obtain ⟨_, _, afterId⟩ := bind_eq_ok succeeded
  obtain ⟨_, _, afterName⟩ := bind_eq_ok afterId
  obtain ⟨_, _, afterComment⟩ := bind_eq_ok afterName
  obtain ⟨_, _, afterNumber⟩ := bind_eq_ok afterComment
  obtain rfl := Except.ok.inj afterNumber
  exact ⟨rfl, unlessNull_ne_null _⟩

theorem settledIn_of_readEdge {owner : Int} {value : Value} {edge : Edge Value}
    (succeeded : readEdge owner value = .ok edge) : edge.SettledIn owner := by
  obtain ⟨guard, _, afterGuard⟩ := bind_eq_ok succeeded
  obtain ⟨_, _, afterId⟩ := bind_eq_ok afterGuard
  obtain ⟨_, _, afterSource⟩ := bind_eq_ok afterId
  obtain ⟨_, _, afterTarget⟩ := bind_eq_ok afterSource
  obtain ⟨_, _, afterUpdates⟩ := bind_eq_ok afterTarget
  obtain ⟨_, _, afterNumber⟩ := bind_eq_ok afterUpdates
  obtain ⟨_, _, afterSourceRead⟩ := bind_eq_ok afterNumber
  obtain ⟨_, _, afterTargetRead⟩ := bind_eq_ok afterSourceRead
  obtain rfl := Except.ok.inj afterTargetRead
  refine ⟨rfl, fun null => ?_⟩
  obtain ⟨content, set, same⟩ := Option.map_eq_some_iff.mp null
  exact unlessNull_ne_null guard (set.trans (congrArg some (congrArg Expression.text same)))

/-- Everything that was gathered was read. -/
theorem Gathered.exists_read {Member : Type} [Identified Member] {key : DumpKey} {read : Value → Reading Member}
    {value : Value} {registry : Registry Member} (gathered : Gathered key read value registry) :
    ∀ member ∈ registry.members, ∃ item, read item = .ok member := by
  obtain ⟨items, members, _, each, rfl⟩ := gathered
  intro member present
  obtain ⟨item, _, succeeded⟩ := exists_of_mapM (mapM_eq_ok_iff.mpr each) member
    (Registry.mem_of_mem_ofList present)
  exact ⟨item, succeeded⟩

theorem settled_of_readTemplate {value : Value} {template : Template Value}
    (succeeded : readTemplate value = .ok template) : template.Settled := by
  have parts := readTemplate_eq_ok_iff.mp succeeded
  constructor
  · intro location present
    obtain ⟨_, read⟩ := parts.locations.exists_read location present
    exact settledIn_of_readLocation read
  · intro edge present
    obtain ⟨_, read⟩ := parts.edges.exists_read edge present
    exact settledIn_of_readEdge read

/-- Every dump that was read is settled, whatever identifiers come twice or are missing in its value. -/
theorem settled_of_ofValue {value : Value} {dump : Dump} (succeeded : Dump.ofValue value = .ok dump) :
    dump.Settled := by
  have parts := ofValue_eq_ok_iff.mp succeeded
  intro template present
  obtain ⟨_, read⟩ := parts.templates.exists_read template present
  exact settled_of_readTemplate read

end Dump

end TraceAutomata
