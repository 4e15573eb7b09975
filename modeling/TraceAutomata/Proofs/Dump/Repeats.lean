import Mathlib.Algebra.Ring.Int.Defs
import TraceAutomata.Proofs.Dump.Reading

/-!
# Repeated identifiers

What a dump makes of values in which identifiers come twice. Reading puts one object after another into a
registry, and each step keeps `Collected`: the identifiers stand in the order in which they first came, and
under each one is what the last value with it describes (`collected_put`, `collected_ofList`).

`tidy` leaves of each list the last value with each identifier, at the place of the first one.
`repeats_resolved` says for every value that is read what becomes of the lists of templates, locations and edges, and
that the tidied value is read as the same dump.
-/

namespace TraceAutomata

open Identified (identifier)

namespace Dump

/-! ## Identifiers in a list of values -/

/-- The identifier that a value has, if it is a mapping with one. -/
def identifierOf? (value : Value) : Option Int :=
  (field .id value >>= integerOf).toOption

/-- The identifiers of some values in order, with repetitions. -/
def identifiersOf (items : List Value) : List Int :=
  items.filterMap identifierOf?

theorem identifiersOf_concat {items : List Value} {item : Value} {wanted : Int}
    (has : identifierOf? item = some wanted) :
    identifiersOf (items ++ [item]) = identifiersOf items ++ [wanted] := by
  simp [identifiersOf, has]

theorem identifierOf?_eq_some {value : Value} {wanted : Int} (has : field .id value = .ok (.integer wanted)) :
    identifierOf? value = some wanted := by
  rw [identifierOf?, has]
  rfl

/-- Members that are found one by one. -/
theorem forall₂_filterMap {Member : Type} {describes : Value → Member → Prop} {find : Member → Option Value}
    {members : List Member}
    (found : ∀ member ∈ members, ∃ item, find member = some item ∧ describes item member) :
    List.Forall₂ describes (members.filterMap find) members := by
  induction members with
  | nil => exact .nil
  | cons member rest inductionHypothesis =>
    obtain ⟨⟨item, here, described⟩, others⟩ := List.forall_mem_cons.mp found
    rw [List.filterMap_cons_some here]
    exact .cons described (inductionHypothesis others)

/-! ## Registries of what values describe -/

section Collected

variable {Member : Type} [Identified Member] {describes : Value → Member → Prop} {items : List Value}
  {members : List Member} {registry : Registry Member} {item : Value} {member : Member}

/-- The registry holds what some values describe: its identifiers are different and stand in the order in
which they first come, and under each one is what the last value with it describes. -/
structure Collected (describes : Value → Member → Prop) (items : List Value) (registry : Registry Member) :
    Prop where
  distinct : registry.identifiers.Nodup
  order : registry.identifiers = (identifiersOf items).eraseDups
  last : ∀ member ∈ registry.members, ∃ before item after, items = before ++ item :: after ∧
    identifierOf? item = some (identifier member) ∧ describes item member ∧
    identifier member ∉ identifiersOf after

theorem collected_empty : Collected describes [] Registry.empty where
  distinct := List.nodup_nil
  order := rfl
  last := nofun

/-- Adding an identifier at the end of a list without repetitions. -/
theorem eraseDups_concat (numbers : List Int) (number : Int) :
    (numbers ++ [number]).eraseDups =
      if number ∈ numbers.eraseDups then numbers.eraseDups else numbers.eraseDups ++ [number] := by
  rw [List.eraseDups_append]
  by_cases present : number ∈ numbers <;> simp [present, List.removeAll, List.eraseDups_cons]

/-- Putting what the next value describes. -/
theorem collected_put (collected : Collected describes items registry)
    (has : identifierOf? item = some (identifier member)) (described : describes item member) :
    Collected describes (items ++ [item]) (registry.put member) where
  distinct := (registry.put member).distinct
  order := by
    rw [identifiersOf_concat has, eraseDups_concat, ← collected.order]
    exact Registry.map_identifier_putMember member registry.members
  last other present := by
    obtain rfl | ⟨kept, apart⟩ := Registry.mem_put.mp present
    · exact ⟨items, item, [], rfl, has, described, by simp [identifiersOf]⟩
    · obtain ⟨before, own, after, rfl, ownHas, ownDescribed, unrepeated⟩ := collected.last other kept
      refine ⟨before, own, after ++ [item], by simp, ownHas, ownDescribed, ?_⟩
      rw [identifiersOf_concat has, List.mem_append, List.mem_singleton, not_or]
      exact ⟨unrepeated, apart⟩

/-- Putting what all values describe, one after another. -/
theorem collected_ofList
    (has : ∀ item member, describes item member → identifierOf? item = some (identifier member))
    (each : List.Forall₂ describes items members) : Collected describes items (Registry.ofList members) := by
  have onward (done : List Value) (earlier : Registry Member) (collected : Collected describes done earlier) :
      Collected describes (done ++ items) (members.foldl Registry.put earlier) := by
    induction each generalizing done earlier with
    | nil => rwa [List.append_nil]
    | cons described _ inductionHypothesis =>
      rw [List.append_cons]
      exact inductionHypothesis _ _ (collected_put collected (has _ _ described) described)
  exact onward [] Registry.empty collected_empty

/-! ## Keeping the last value with each identifier -/

/-- The last of some values that has an identifier. -/
def lastWith? (items : List Value) (wanted : Int) : Option Value :=
  items.reverse.find? fun item => identifierOf? item == some wanted

/-- Of some values the last one with each identifier, at the place of the first one. -/
def lastOfEach (items : List Value) : List Value :=
  (identifiersOf items).eraseDups.filterMap (lastWith? items)

theorem lastWith?_eq_some {before after : List Value} {wanted : Int} (has : identifierOf? item = some wanted)
    (unrepeated : wanted ∉ identifiersOf after) : lastWith? (before ++ item :: after) wanted = some item := by
  have later : after.reverse.find? (fun value => identifierOf? value == some wanted) = none := by
    rw [List.find?_eq_none]
    intro value present named
    exact unrepeated (List.mem_filterMap.mpr ⟨value, List.mem_reverse.mp present, by simpa using named⟩)
  rw [lastWith?, List.reverse_append, List.reverse_cons, List.append_assoc, List.find?_append, later]
  simp [has]

/-- The values that are left describe the members of the registry, one by one. -/
theorem Collected.lastOfEach (collected : Collected describes items registry) :
    List.Forall₂ describes (lastOfEach items) registry.members := by
  rw [Dump.lastOfEach, ← collected.order, Registry.identifiers, List.filterMap_map]
  apply forall₂_filterMap
  intro member present
  obtain ⟨before, item, after, rfl, has, described, unrepeated⟩ := collected.last member present
  exact ⟨item, lastWith?_eq_some has unrepeated, described⟩

end Collected

/-! ## Values with changed members -/

section Changed

/-- The value of an entry is changed if its key is the wanted one. -/
def changeUnder (key : DumpKey) (change : Value → Value) : Value × Value → Value × Value
  | (.text present, found) => (.text present, if present = key.text then change found else found)
  | entry => entry

/-- A mapping in which the value under a key is changed. -/
def changeField (key : DumpKey) (change : Value → Value) (value : Value) : Value :=
  match value.content with
  | .mapping entries => .mapping (entries.map (changeUnder key change))
  | _ => value

/-- The list of changed members of a value; what has no members stays as it is. -/
def changeMembers (change : List Value → List Value) (value : Value) : Value :=
  match members value with
  | .ok items => .list (change items)
  | .error _ => value

/-- A mapping in which the members under a key are changed. -/
def changeMembersAt (key : DumpKey) (change : List Value → List Value) : Value → Value :=
  changeField key (changeMembers change)

variable {key other : DumpKey} {value : Value}

section Fields

variable {change : Value → Value}

theorem lookup_map_changeUnder (entries : List (Value × Value)) :
    Value.lookup other.text (entries.map (changeUnder key change)) =
      (Value.lookup other.text entries).map fun found => if other = key then change found else found := by
  induction entries with
  | nil => rfl
  | cons entry rest inductionHypothesis =>
    obtain ⟨own, found⟩ := entry
    cases own with
    | text present =>
      by_cases here : present = other.text
      · subst here
        simp [changeUnder, Value.lookup, text_injective.eq_iff]
      · simp [changeUnder, Value.lookup, here, inductionHypothesis]
    | _ => exact inductionHypothesis

theorem field?_changeField : field? other (changeField key change value) =
    (field? other value).map (Option.map fun found => if other = key then change found else found) := by
  unfold field? changeField
  cases held : value.content with
  | mapping entries => exact congrArg Except.ok (lookup_map_changeUnder entries)
  | _ => simp only [held, Except.map]

theorem lookup_map_changeUnder_of_ne (differs : other ≠ key) (entries : List (Value × Value)) :
    Value.lookup other.text (entries.map (changeUnder key change)) = Value.lookup other.text entries := by
  rw [lookup_map_changeUnder]
  simp [differs]

end Fields

variable {change : List Value → List Value}

@[simp] theorem field_changeMembersAt_of_ne (differs : other ≠ key) :
    field other (changeMembersAt key change value) = field other value := by
  unfold field changeMembersAt changeField
  cases held : value.content <;> simp only [held, Value.content, lookup_map_changeUnder_of_ne differs]

@[simp] theorem field?_changeMembersAt_of_ne (differs : other ≠ key) :
    field? other (changeMembersAt key change value) = field? other value := by
  unfold field? changeMembersAt changeField
  cases held : value.content <;> simp only [held, Value.content, lookup_map_changeUnder_of_ne differs]

@[simp] theorem membersAt_changeMembersAt_of_ne (differs : other ≠ key) :
    membersAt other (changeMembersAt key change value) = membersAt other value := by
  rw [membersAt, field?_changeMembersAt_of_ne differs, membersAt]

@[simp] theorem expressionsAt_changeMembersAt_of_ne (differs : other ≠ key) {role : Role} :
    expressionsAt role other (changeMembersAt key change value) = expressionsAt role other value := by
  rw [expressionsAt, membersAt_changeMembersAt_of_ne differs, expressionsAt]

/-- Changed members are found under the key, where no members stay none. -/
theorem membersAt_changeMembersAt {items : List Value} (none : change [] = [])
    (held : membersAt key value = .ok items) :
    membersAt key (changeMembersAt key change value) = .ok (change items) := by
  obtain ⟨found, looked, ofFound⟩ := bind_eq_ok held
  rw [membersAt, changeMembersAt, field?_changeField, looked]
  cases found with
  | none =>
    obtain rfl := Except.ok.inj ofFound
    rw [none]
    rfl
  | some there =>
    change members there = .ok items at ofFound
    show members (if key = key then changeMembers change there else there) = .ok (change items)
    rw [if_pos rfl, changeMembers, ofFound]
    rfl

end Changed

/-! ## Tidied dumps -/

/-- The value of a template without all but the last location and the last edge with each identifier. -/
def tidyTemplate (value : Value) : Value :=
  changeMembersAt .edges lastOfEach (changeMembersAt .locations lastOfEach value)

/-- The value of a dump without all but the last template, location and edge with each identifier. The last
one stands at the place of the first. -/
def tidy (value : Value) : Value :=
  changeMembersAt .templates (fun items => (lastOfEach items).map tidyTemplate) value

/-! ## What is read -/

/-- A value describes a location of a template, which carries the identifier of the template. -/
structure DescribesLocation (owner : Int) (value : Value) (location : Location Value) : Prop where
  read : readLocation owner value = .ok location
  owned : location.owner = owner

/-- A value describes an edge of a template, which carries the identifier of the template. -/
structure DescribesEdge (owner : Int) (value : Value) (edge : Edge Value) : Prop where
  read : readEdge owner value = .ok edge
  owned : edge.owner = owner

/-- A value describes a template, which has its locations and edges and no others. -/
structure DescribesTemplate (value : Value) (template : Template Value) : Prop where
  read : readTemplate value = .ok template
  locations : ∃ items, membersAt .locations value = .ok items ∧
    Collected (DescribesLocation template.id) items template.locations
  edges : ∃ items, membersAt .edges value = .ok items ∧
    Collected (DescribesEdge template.id) items template.edges

/-- What becomes of the lists of a value that is read as a dump. -/
structure Resolved (value : Value) (dump : Dump) : Prop where
  templates : ∃ items, membersAt .templates value = .ok items ∧
    Collected DescribesTemplate items dump.templates
  counted : field? .locationCount value = .ok none → dump.locationCount =
    .integer (dump.templates.members.map fun template => (template.locations.size : Int)).sum
  tidied : Dump.ofValue (tidy value) = .ok dump

section Describing

variable {value : Value}

theorem identifierOf?_of_readLocation {owner : Int} {location : Location Value}
    (succeeded : readLocation owner value = .ok location) : identifierOf? value = some location.id := by
  obtain ⟨_, idRead, afterId⟩ := bind_eq_ok succeeded
  obtain ⟨_, _, afterName⟩ := bind_eq_ok afterId
  obtain ⟨_, _, afterComment⟩ := bind_eq_ok afterName
  obtain ⟨_, number, afterNumber⟩ := bind_eq_ok afterComment
  obtain rfl := Except.ok.inj afterNumber
  obtain rfl := integerOf_eq_ok_iff.mp number
  exact identifierOf?_eq_some idRead

theorem identifierOf?_of_readEdge {owner : Int} {edge : Edge Value}
    (succeeded : readEdge owner value = .ok edge) : identifierOf? value = some edge.id := by
  obtain ⟨_, _, afterGuard⟩ := bind_eq_ok succeeded
  obtain ⟨_, idRead, afterId⟩ := bind_eq_ok afterGuard
  obtain ⟨_, _, afterSource⟩ := bind_eq_ok afterId
  obtain ⟨_, _, afterTarget⟩ := bind_eq_ok afterSource
  obtain ⟨_, _, afterUpdates⟩ := bind_eq_ok afterTarget
  obtain ⟨_, number, afterNumber⟩ := bind_eq_ok afterUpdates
  obtain ⟨_, _, afterSourceRead⟩ := bind_eq_ok afterNumber
  obtain ⟨_, _, afterTargetRead⟩ := bind_eq_ok afterSourceRead
  obtain rfl := Except.ok.inj afterTargetRead
  obtain rfl := integerOf_eq_ok_iff.mp number
  exact identifierOf?_eq_some idRead

theorem describesLocation_of_read {owner : Int} {location : Location Value}
    (succeeded : readLocation owner value = .ok location) : DescribesLocation owner value location :=
  ⟨succeeded, (settledIn_of_readLocation succeeded).1⟩

theorem describesEdge_of_read {owner : Int} {edge : Edge Value}
    (succeeded : readEdge owner value = .ok edge) : DescribesEdge owner value edge :=
  ⟨succeeded, (settledIn_of_readEdge succeeded).1⟩

/-- What is gathered from the values under a key is collected from them. -/
theorem Gathered.collected {Member : Type} [Identified Member] {key : DumpKey} {read : Value → Reading Member}
    {describes : Value → Member → Prop} {registry : Registry Member} (gathered : Gathered key read value registry)
    (describing : ∀ {item member}, read item = .ok member → describes item member)
    (has : ∀ item member, describes item member → identifierOf? item = some (identifier member)) :
    ∃ items, membersAt key value = .ok items ∧ Collected describes items registry := by
  obtain ⟨items, members, held, each, rfl⟩ := gathered
  exact ⟨items, held, collected_ofList has (each.imp fun _ _ => describing)⟩

theorem describesTemplate_of_read {template : Template Value}
    (succeeded : readTemplate value = .ok template) : DescribesTemplate value template := by
  have parts := readTemplate_eq_ok_iff.mp succeeded
  constructor
  · exact succeeded
  · exact parts.locations.collected describesLocation_of_read fun _ _ described =>
      identifierOf?_of_readLocation described.read
  · exact parts.edges.collected describesEdge_of_read fun _ _ described =>
      identifierOf?_of_readEdge described.read

/-- What is collected is gathered from the last values with each identifier. -/
theorem Gathered.lastOfEach {Member : Type} [Identified Member] {key : DumpKey} {read : Value → Reading Member}
    {registry : Registry Member} {items : List Value} {describes : Value → Member → Prop} {tidied : Value}
    (collected : Collected describes items registry)
    (reads : ∀ item member, describes item member → read item = .ok member)
    (held : membersAt key tidied = .ok (lastOfEach items)) : Gathered key read tidied registry :=
  ⟨_, registry.members, held, collected.lastOfEach.imp reads, (Registry.ofList_members registry).symm⟩

/-- A tidied template is read as the same template. -/
theorem readTemplate_tidyTemplate {template : Template Value} (described : DescribesTemplate value template) :
    readTemplate (tidyTemplate value) = .ok template := by
  obtain ⟨read, ⟨locationItems, locationsHeld, locations⟩, edgeItems, edgesHeld, edges⟩ := described
  have parts := readTemplate_eq_ok_iff.mp read
  refine readTemplate_eq_ok_iff.mpr ⟨?_, ?_, ?_, ?_, ?_, ?_⟩
  · simpa [tidyTemplate] using parts.id
  · simpa [tidyTemplate] using parts.name
  · simpa [tidyTemplate] using parts.declarations
  · refine Gathered.lastOfEach locations (fun _ _ here => here.read) ?_
    rw [tidyTemplate, membersAt_changeMembersAt_of_ne (by decide)]
    exact membersAt_changeMembersAt rfl locationsHeld
  · refine Gathered.lastOfEach edges (fun _ _ here => here.read) (membersAt_changeMembersAt rfl ?_)
    rwa [membersAt_changeMembersAt_of_ne (by decide)]
  · simpa [tidyTemplate] using parts.initial

/-- A tidied dump is read as the same dump. -/
theorem ofValue_tidy {dump : Dump} {items : List Value} (parts : Parts value dump)
    (held : membersAt .templates value = .ok items)
    (collected : Collected DescribesTemplate items dump.templates) : Dump.ofValue (tidy value) = .ok dump := by
  have templates : List.Forall₂ (fun item template => readTemplate item = .ok template)
      ((lastOfEach items).map tidyTemplate) dump.templates.members :=
    List.forall₂_map_left_iff.mpr (collected.lastOfEach.imp fun _ _ => readTemplate_tidyTemplate)
  refine ofValue_eq_ok_iff.mpr ⟨?_, ?_, ?_, ?_, ?_⟩
  · simpa [tidy] using parts.name
  · simpa [tidy] using parts.globalDeclarations
  · simpa [tidy] using parts.systemDeclarations
  · exact ⟨_, _, membersAt_changeMembersAt rfl held, templates, (Registry.ofList_members _).symm⟩
  · simpa [tidy] using parts.locationCount

theorem countLocations_eq_sum (templates : Registry (Template Value)) : countLocations templates =
    (templates.members.map fun template => (template.locations.size : Int)).sum := by
  rw [countLocations, List.sum_eq_foldr, List.foldr_map]

end Describing

/-- Of every value that is read as a dump: on each level the identifiers are different, in the order in which
they first come, and stand for the last value with them. Locations and edges carry the identifier of their
template, a missing count is the number of those locations, and the tidied value is the same dump. -/
theorem repeats_resolved {value : Value} {dump : Dump} (accepted : Dump.ofValue value = .ok dump) :
    Resolved value dump := by
  have parts := ofValue_eq_ok_iff.mp accepted
  obtain ⟨items, held, collected⟩ := parts.templates.collected describesTemplate_of_read
    fun _ _ described => identifierOf?_eq_some (readTemplate_eq_ok_iff.mp described.read).id
  refine ⟨⟨items, held, collected⟩, fun missing => ?_, ofValue_tidy parts held collected⟩
  obtain ⟨found, looked, count⟩ := parts.locationCount
  obtain rfl := Except.ok.inj (looked.symm.trans missing)
  rw [count, ← countLocations_eq_sum]
  rfl

/-- A template that comes twice, the second time with a location that comes twice. -/
theorem doubled_resolved :
    let location (id : Int) (name : String) : Value := mapping [(.id, .integer id), (.name, .text name)]
    let template (id : Int) (name : String) (locations : List Value) : Value :=
      mapping [(.id, .integer id), (.name, .text name), (.locations, .list locations)]
    let value := mapping [(.templates, .list
      [template 7 "Old" [location 1 "a", location 2 "b"], template 3 "Next" [],
        template 7 "New" [location 5 "c", location 4 "d", location 5 "e"]])]
    ∃ dump, Dump.ofValue value = .ok dump ∧ Resolved value dump ∧ dump.templates.identifiers = [7, 3] ∧
      dump.locationCount = .integer 2 :=
  ⟨_, rfl, repeats_resolved rfl, rfl, rfl⟩

end Dump

end TraceAutomata
