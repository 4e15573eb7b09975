import TraceAutomata.Proofs.Builder.Numbering
import TraceAutomata.Proofs.Text.Numeral

/-!
# Names of locations

The name of a location ends in its number, and the number is read off behind the last underscore whatever the
stem in front of it is. So a name tells its location among those of all templates
(`Network.Numbered.eq_of_name_eq`), also where stems are equal, empty or look like names themselves.
`named_runAll` says of every run that the names are different, and that each of them is made of the stem that
was given when the location was created.
-/

namespace TraceAutomata

/-! ## Names and numbers -/

/-- No digit is the underscore in front of the number. -/
theorem Build.underscore_notMem_decimalDigits (number : Nat) :
    '_' ∉ Text.decimalDigits number :=
  Nat.underscore_not_in_toDigits

/-- The name of a location tells its number. -/
theorem Build.eq_of_locationName_eq {stem other : String} {number another : Int}
    (natural : 0 ≤ number) (alsoNatural : 0 ≤ another)
    (same : locationName stem number = locationName other another) : number = another := by
  have characters := congrArg String.toList same
  simp only [locationName, String.toList_append, List.append_assoc,
    Text.toList_signedDecimal natural, Text.toList_signedDecimal alsoNatural] at characters
  have digits := (Text.append_cons_cancel_right (underscore_notMem_decimalDigits _)
    (underscore_notMem_decimalDigits _) characters).2
  have values := Text.decimalDigits_injective digits
  omega

/-- The numbers of locations are below the count, show in their names, and are given once. -/
structure Network.Numbered (network : Network) : Prop where
  within : ∀ template ∈ network.templates.members, ∀ location ∈ template.locations.members,
    0 ≤ location.id ∧ location.id < network.locationCount
  named : ∀ template ∈ network.templates.members, ∀ location ∈ template.locations.members,
    ∃ stem, location.name = Build.locationName stem location.id
  once : ∀ template ∈ network.templates.members, ∀ other ∈ network.templates.members,
    ∀ location ∈ template.locations.members, ∀ another ∈ other.locations.members,
      location.id = another.id → template.id = other.id
  natural : 0 ≤ network.locationCount

namespace Network.Numbered

variable {network : Network}

/-- Two locations with one name are one location of one template. -/
theorem eq_of_name_eq (numbered : network.Numbered) {template other : Template}
    {location another : Location} (present : template ∈ network.templates.members)
    (otherPresent : other ∈ network.templates.members)
    (hosted : location ∈ template.locations.members) (otherHosted : another ∈ other.locations.members)
    (same : location.name = another.name) : template = other ∧ location = another := by
  obtain ⟨stem, named⟩ := numbered.named template present location hosted
  obtain ⟨otherStem, otherNamed⟩ := numbered.named other otherPresent another otherHosted
  rw [named, otherNamed] at same
  have numbers : location.id = another.id :=
    Build.eq_of_locationName_eq (numbered.within _ present _ hosted).1
      (numbered.within _ otherPresent _ otherHosted).1 same
  have owners := numbered.once _ present _ otherPresent _ hosted _ otherHosted numbers
  obtain rfl : template = other := Registry.eq_of_identifier_eq present otherPresent owners
  exact ⟨rfl, Registry.eq_of_identifier_eq hosted otherHosted numbers⟩

/-- The names of all locations of all templates are different. -/
theorem nodup_names (numbered : network.Numbered) :
    (network.templates.members.flatMap fun template =>
      template.locations.members.map Location.name).Nodup := by
  rw [List.nodup_flatMap]
  constructor
  · intro template present
    refine template.locations.distinct.of_map.map_on fun location hosted another otherHosted same => ?_
    exact (numbered.eq_of_name_eq present present hosted otherHosted same).2
  · refine network.templates.distinct.of_map.imp_of_mem fun present otherPresent different => ?_
    intro name here there
    obtain ⟨location, hosted, rfl⟩ := List.mem_map.mp here
    obtain ⟨another, otherHosted, same⟩ := List.mem_map.mp there
    exact different (numbered.eq_of_name_eq present otherPresent hosted otherHosted same.symm).1

end Network.Numbered

/-! ## Names and creations -/

/-- The names of all locations are different. Every location that was created is held by its template, and each
that is held was created once; its name is the stem it was created with, or the default for an empty one, then
an underscore and its number in decimal. -/
structure Network.Named (network : Network) (created : List Creation) : Prop where
  distinct : (network.templates.members.flatMap fun template =>
    template.locations.members.map Location.name).Nodup
  held : ∀ handle given, Creation.location handle given ∈ created →
    ∃ template, network.template? handle.template = some template ∧
      ∃ location, template.location? handle.id = some location
  named : ∀ template ∈ network.templates.members, ∀ location ∈ template.locations.members,
    ∃ (number : Nat) (stem : String), location.id = number ∧
      (∀ handle given, Creation.location handle given ∈ created ∧ handle.id = location.id ↔
        handle = ⟨location.id, template.id⟩ ∧ given = stem) ∧
      location.name = (if stem = "" then "Location" else stem) ++ "_" ++ Text.decimal number

namespace Creation

/-- The list of creations and the list of created locations say the same. -/
theorem mem_locations_iff {created : List Creation} {handle : LocationHandle} {stem : String} :
    (handle, stem) ∈ locations created ↔ .location handle stem ∈ created := by
  rw [locations, List.mem_filterMap]
  constructor
  · rintro ⟨creation, among, same⟩
    cases creation with
    | template _ _ => cases same
    | location _ _ => cases same; exact among
    | edge _ => cases same
  · exact fun among => ⟨_, among, rfl⟩

end Creation

namespace Recorded

variable {builder : Builder} {created : List Creation}

/-- The locations of a network that holds what was created are numbered. -/
theorem numbered (recorded : Recorded builder created) : builder.network.Numbered where
  within template present location hosted := by
    obtain ⟨_, stem, among, _⟩ := recorded.location_mem present hosted
    exact recorded.locations.mem_iff.mp (List.mem_map.mpr ⟨_, among, rfl⟩)
  named template present location hosted := by
    obtain ⟨_, stem, _, named⟩ := recorded.location_mem present hosted
    exact ⟨stem, named⟩
  once template present other otherPresent location hosted another otherHosted same := by
    have here : location.id ∈ template.locations.identifiers := List.mem_map_of_mem hosted
    have there : location.id ∈ other.locations.identifiers := by
      rw [same]
      exact List.mem_map_of_mem otherHosted
    rw [recorded.enumerated_locations.once template present other otherPresent _ here there]
  natural := by
    rw [recorded.locations.next]
    exact Int.natCast_nonneg _

/-- A location was created once, and its name is made of the stem it was created with. -/
theorem named (recorded : Recorded builder created) : builder.network.Named created where
  distinct := recorded.numbered.nodup_names
  held handle given among := by
    have entry := Creation.mem_locations_iff.mpr among
    obtain ⟨template, present, same⟩ := recorded.exists_template (recorded.locationHosts _ entry)
    have taken : handle.id ∈ template.locations.identifiers := by
      rw [recorded.identifiers_locations present]
      exact List.mem_map.mpr ⟨(handle, given), List.mem_filter.mpr ⟨entry, decide_eq_true same.symm⟩, rfl⟩
    exact ⟨template, Registry.find?_eq_some_iff.mpr ⟨present, same⟩, Template.mem_identifiers_iff.mp taken⟩
  named template present location hosted := by
    obtain ⟨_, stem, among, called⟩ := recorded.location_mem present hosted
    obtain ⟨number, numbered⟩ :=
      Int.eq_ofNat_of_zero_le (recorded.numbered.within template present location hosted).1
    refine ⟨number, stem, numbered, fun handle given => ?_, ?_⟩
    · rw [← Creation.mem_locations_iff]
      constructor
      · rintro ⟨alsoAmong, same⟩
        have entries := List.inj_on_of_nodup_map recorded.locations.pairwise.nodup alsoAmong among same
        exact Prod.mk.inj entries
      · rintro ⟨rfl, rfl⟩
        exact ⟨among, rfl⟩
    · rw [called, numbered, Build.locationName]
      simp only [String.isEmpty_iff]
      rfl

end Recorded

namespace Command

/-- The locations of a network that was built by commands are numbered. -/
theorem numbered_runAll (commands : List Command) : (runAll {} commands).network.Numbered :=
  (recorded_runAll commands).numbered

/-- After every run, whatever stems and handles its commands were given and whether or not they failed, the
names of all locations are different, and each is made of the stem given at its creation and its number. -/
theorem named_runAll (commands : List Command) :
    (runAll {} commands).network.Named (creations {} commands) :=
  (recorded_runAll commands).named

/-- Stems that look like names of other locations, an empty one among them. -/
example :
    ((runAll {} [.newTemplate "T", .newLocation "A" (some ⟨0⟩), .newLocation "A_1" (some ⟨7⟩),
        .newLocation "A_1" (some ⟨0⟩), .newTemplate "T", .newLocation "" (some ⟨1⟩),
        .newLocation "_" (some ⟨1⟩)]).network.templates.members.map fun template =>
      template.locations.members.map Location.name) =
      [["A_0", "A_1_1"], ["Location_2", "__3"]] := by
  decide +kernel

end Command

end TraceAutomata
