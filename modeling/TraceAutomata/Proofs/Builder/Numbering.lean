import TraceAutomata.Proofs.Builder.Creation

/-!
# Numbers of objects

Three counts number the templates, the locations and the edges of a network, and every command keeps them in
step with what the network holds, in whatever templates objects are created and whether or not commands fail.
`Network.Enumerated` says of one kind of object that the numbers below its count are each held by one template,
and what follows for a look-up in the whole network. `enumerated_runAll` proves it of every run.
-/

namespace TraceAutomata

open Identified (identifier)

/-- The objects of one kind are numbered from zero without a gap. Every number below the count is held by
exactly one template, each template holds its numbers in increasing order, and a look-up in all templates finds
an object under exactly these numbers: the one that its owner holds under the number. -/
structure Network.Enumerated {α : Type} [Identified α] (network : Network) (held : Template → Registry α)
    (owner : α → Int) (look : Int → Option α) (count : Nat) : Prop where
  each : ∀ number : Int, 0 ≤ number ∧ number < count ↔
    ∃ template ∈ network.templates.members, number ∈ (held template).identifiers
  once : ∀ template ∈ network.templates.members, ∀ other ∈ network.templates.members, ∀ number,
    number ∈ (held template).identifiers → number ∈ (held other).identifiers → template = other
  ordered : ∀ template ∈ network.templates.members, (held template).identifiers.Pairwise (· < ·)
  found_iff : ∀ number : Int, (∃ object, look number = some object) ↔ 0 ≤ number ∧ number < count
  found : ∀ number object, look number = some object → identifier object = number ∧
    ∃ template, network.template? (owner object) = some template ∧
      (held template).find? number = some object

section Entries

variable {α ε : Type} [Identified α] {network : Network} {held : Template → Registry α} {owner : α → Int}
  {entries : List ε} {number host : ε → Int} {next : Int}

/-- Something is found in some template exactly when a template holds the number. -/
theorem exists_findSome?_iff {templates : List Template} {wanted : Int} :
    (∃ object, templates.findSome? (fun template => (held template).find? wanted) = some object) ↔
      ∃ template ∈ templates, wanted ∈ (held template).identifiers := by
  rw [← Option.isSome_iff_exists, List.findSome?_isSome_iff]
  exact exists_congr fun template => and_congr_right fun _ => Registry.contains_iff

/-- Objects that were numbered one after another when they were created, each in one template, are
enumerated. -/
theorem enumerated_of_entries (allotted : Allotted (entries.map number) next)
    (hosted : ∀ entry ∈ entries, ∃ template ∈ network.templates.members, template.id = host entry)
    (listed : ∀ template ∈ network.templates.members, (held template).identifiers =
      (entries.filter fun entry => host entry = template.id).map number)
    (owned : ∀ template ∈ network.templates.members, ∀ object ∈ (held template).members,
      owner object = template.id) :
    network.Enumerated held owner
      (fun wanted => network.templates.members.findSome? fun template => (held template).find? wanted)
      entries.length := by
  have mem_iff : ∀ template ∈ network.templates.members, ∀ wanted,
      wanted ∈ (held template).identifiers ↔
        ∃ entry ∈ entries, host entry = template.id ∧ number entry = wanted := by
    intro template present wanted
    rw [listed template present]
    simp [and_assoc]
  have count : next = entries.length := by simpa using allotted.next
  have each : ∀ wanted : Int, 0 ≤ wanted ∧ wanted < entries.length ↔
      ∃ template ∈ network.templates.members, wanted ∈ (held template).identifiers := by
    intro wanted
    rw [← count, ← allotted.mem_iff, List.mem_map]
    constructor
    · rintro ⟨entry, among, rfl⟩
      obtain ⟨template, present, same⟩ := hosted entry among
      exact ⟨template, present, (mem_iff template present _).mpr ⟨entry, among, same.symm, rfl⟩⟩
    · rintro ⟨template, present, here⟩
      obtain ⟨entry, among, _, same⟩ := (mem_iff template present _).mp here
      exact ⟨entry, among, same⟩
  refine ⟨each, ?once, ?ordered, ?found_iff, ?found⟩
  case once =>
    intro template present other otherPresent wanted here there
    obtain ⟨entry, among, own, numbered⟩ := (mem_iff template present _).mp here
    obtain ⟨another, alsoAmong, alsoOwn, alsoNumbered⟩ := (mem_iff other otherPresent _).mp there
    -- Numbers are given out once, so both templates hold the same entry.
    have same : entry = another :=
      List.inj_on_of_nodup_map allotted.pairwise.nodup among alsoAmong (numbered.trans alsoNumbered.symm)
    have ids : template.id = other.id := by rw [← own, ← alsoOwn, same]
    exact Registry.eq_of_identifier_eq present otherPresent ids
  case ordered =>
    intro template present
    rw [listed template present]
    exact allotted.pairwise.sublist (List.filter_sublist.map number)
  case found_iff =>
    intro wanted
    rw [each]
    exact exists_findSome?_iff
  case found =>
    intro wanted object found
    obtain ⟨template, present, here⟩ := List.exists_of_findSome?_eq_some found
    refine ⟨Registry.identifier_of_find? here, template, ?_, here⟩
    rw [owned template present object (Registry.mem_of_find? here)]
    exact Registry.find?_eq_some_iff.mpr ⟨present, rfl⟩

end Entries

namespace Recorded

variable {builder : Builder} {created : List Creation}

/-- A number that was given to a template is the one of a template that is there. -/
theorem exists_template (recorded : Recorded builder created) {number : Int}
    (among : number ∈ (Creation.templates created).map fun entry => entry.1.id) :
    ∃ template ∈ builder.network.templates.members, template.id = number := by
  rw [← recorded.identifiers_templates] at among
  exact List.mem_map.mp among

/-- The templates are numbered in the order of their creation. -/
theorem enumerated_templates (recorded : Recorded builder created) :
    builder.network.templates.identifiers =
      (List.range (Creation.templates created).length).map Nat.cast := by
  rw [recorded.identifiers_templates, recorded.templates.inOrder, List.length_map]

/-- The locations are enumerated. -/
theorem enumerated_locations (recorded : Recorded builder created) :
    builder.network.Enumerated Template.locations Location.owner builder.network.location?
      (Creation.locations created).length :=
  enumerated_of_entries recorded.locations
    (fun entry among => recorded.exists_template (recorded.locationHosts entry among))
    (fun _ present => recorded.identifiers_locations present)
    (fun _ present _ hosted => (recorded.location_mem present hosted).1)

/-- The edges are enumerated. -/
theorem enumerated_edges (recorded : Recorded builder created) :
    builder.network.Enumerated Template.edges Edge.owner builder.network.edge?
      (Creation.edges created).length :=
  enumerated_of_entries recorded.edges
    (fun handle among => recorded.exists_template (recorded.edgeHosts handle among))
    (fun _ present => recorded.identifiers_edges present)
    (fun _ present _ hosted => (recorded.edge_mem present hosted).1)

end Recorded

namespace Command

/-- After every run, whatever handles its commands were given and whether or not they failed: the templates,
the locations and the edges are numbered from zero up to how many of each were created since the last command
that started another network, and the count of locations is that number of locations. -/
theorem enumerated_runAll (commands : List Command) :
    let network := (runAll {} commands).network
    let created := creations {} commands
    network.templates.identifiers = (List.range (Creation.templates created).length).map Nat.cast ∧
      network.locationCount = (Creation.locations created).length ∧
      network.Enumerated Template.locations Location.owner network.location?
        (Creation.locations created).length ∧
      network.Enumerated Template.edges Edge.owner network.edge? (Creation.edges created).length := by
  have recorded := recorded_runAll commands
  refine ⟨recorded.enumerated_templates, ?_, recorded.enumerated_locations, recorded.enumerated_edges⟩
  rw [recorded.locations.next, List.length_map]

end Command

end TraceAutomata
