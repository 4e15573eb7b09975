import Mathlib.Data.List.Induction
import Mathlib.Data.List.Nodup
import TraceAutomata.Registry

/-!
# Laws of registries

What a look-up finds, and what putting an object changes. `find?_eq_some_iff` reads a look-up as
membership, `find?_put` says how putting one object changes every look-up, `members_put_of_absent`
that a new object goes to the end, and `members_put_of_mem` that any other replaces one in its place.
-/

namespace TraceAutomata.Registry

open Identified (identifier)

variable {α : Type} [Identified α] {registry : Registry α} {member : α} {wanted : Int}

/-- Two members with one identifier are the same member. -/
theorem eq_of_identifier_eq {other : α} (first : member ∈ registry.members)
    (second : other ∈ registry.members) (same : identifier member = identifier other) :
    member = other :=
  List.inj_on_of_nodup_map registry.distinct first second same

/-- A look-up finds exactly the member with the identifier. -/
theorem find?_eq_some_iff :
    registry.find? wanted = some member ↔
      member ∈ registry.members ∧ identifier member = wanted := by
  constructor
  · intro found
    have named := List.find?_some found
    exact ⟨List.mem_of_find?_eq_some found, by simpa using named⟩
  · rintro ⟨present, rfl⟩
    cases found : registry.find? (identifier member) with
    | none =>
      have absent := List.find?_eq_none.mp found member present
      simp at absent
    | some other =>
      have named := List.find?_some found
      have same : identifier other = identifier member := by simpa using named
      rw [eq_of_identifier_eq (List.mem_of_find?_eq_some found) present same]

/-- What is found has the identifier under which it was looked up. -/
theorem identifier_of_find? (found : registry.find? wanted = some member) :
    identifier member = wanted :=
  (find?_eq_some_iff.mp found).2

/-- What is found is found under its own identifier. -/
theorem find?_identifier (found : registry.find? wanted = some member) :
    registry.find? (identifier member) = some member := by
  rw [identifier_of_find? found, found]

/-- What is found is a member. -/
theorem mem_of_find? (found : registry.find? wanted = some member) : member ∈ registry.members :=
  (find?_eq_some_iff.mp found).1

/-- A look-up finds nothing exactly when no member has the identifier. -/
theorem find?_eq_none_iff : registry.find? wanted = none ↔ wanted ∉ registry.identifiers := by
  simp [find?, identifiers]

/-- An identifier is taken exactly when it is one of the identifiers. -/
theorem contains_iff : registry.contains wanted = true ↔ wanted ∈ registry.identifiers := by
  rw [contains, Option.isSome_iff_ne_none, ne_eq, find?_eq_none_iff, not_not]

/-- A registry without members finds nothing. -/
@[simp] theorem find?_empty : (empty : Registry α).find? wanted = none := rfl

theorem find?_putMember (added : α) (members : List α) (wanted : Int) :
    (putMember added members).find? (fun member => identifier member == wanted) =
      if identifier added = wanted then some added
      else members.find? fun member => identifier member == wanted := by
  induction members with
  | nil => by_cases same : identifier added = wanted <;> simp [putMember, same]
  | cons first rest inductionHypothesis =>
    by_cases replaced : identifier first = identifier added
    · by_cases same : identifier added = wanted <;> simp [putMember, replaced, same]
    · by_cases same : identifier added = wanted
      · have passed : ¬identifier first = wanted := fun equal => replaced (equal.trans same.symm)
        simp only [same, if_true] at inductionHypothesis
        simp [putMember, same, passed, inductionHypothesis]
      · simp only [same, if_false] at inductionHypothesis
        simp [putMember, replaced, same, inductionHypothesis, List.find?_cons]

/-- Putting an object changes the look-up of its own identifier only. -/
theorem find?_put (registry : Registry α) (added : α) (wanted : Int) :
    (registry.put added).find? wanted =
      if identifier added = wanted then some added else registry.find? wanted :=
  find?_putMember added registry.members wanted

/-- Putting an object changes no respect of what is found in which it is like the one it replaces. -/
theorem map_find?_put {β : Type} (view : α → β) {old added : α}
    (found : registry.find? (identifier added) = some old)
    (alike : identifier added = wanted → view added = view old) :
    ((registry.put added).find? wanted).map view = (registry.find? wanted).map view := by
  rw [find?_put]
  split
  · rename_i same
    rw [← same, found, Option.map_some, Option.map_some, alike same]
  · rfl

/-- An object that was put is found under its identifier. -/
theorem find?_put_of_eq {added : α} (same : identifier added = wanted) :
    (registry.put added).find? wanted = some added := by
  rw [find?_put, if_pos same]

/-- Under every other identifier the same is found as before. -/
theorem find?_put_of_ne {added : α} (apart : identifier added ≠ wanted) :
    (registry.put added).find? wanted = registry.find? wanted := by
  rw [find?_put, if_neg apart]

/-- The members after an object was put are this object and those with other identifiers. -/
theorem mem_put {added : α} :
    member ∈ (registry.put added).members ↔
      member = added ∨ member ∈ registry.members ∧ identifier member ≠ identifier added := by
  have unfolded : member ∈ (registry.put added).members ↔
      (registry.put added).find? (identifier member) = some member := by
    rw [find?_eq_some_iff]
    simp
  rw [unfolded, find?_put]
  by_cases same : identifier added = identifier member
  · simp only [same, if_true, Option.some.injEq, ne_eq, not_true_eq_false, and_false, or_false]
    exact eq_comm
  · have different : member ≠ added := fun equal => same (equal ▸ rfl)
    have apart : ¬identifier member = identifier added := fun equal => same equal.symm
    simp [same, different, apart, find?_eq_some_iff]

/-- The members are what is found under the identifiers. -/
theorem filterMap_find?_identifiers (registry : Registry α) :
    registry.identifiers.filterMap registry.find? = registry.members := by
  have found : ∀ member ∈ registry.members, (registry.find? ∘ identifier) member = some member :=
    fun member present => find?_eq_some_iff.mpr ⟨present, rfl⟩
  rw [identifiers, List.filterMap_map, List.filterMap_congr found, List.filterMap_some]

/-- Registries with the same identifiers in order and the same look-ups are the same. -/
theorem ext_find? {other : Registry α} (order : registry.identifiers = other.identifiers)
    (same : ∀ wanted, registry.find? wanted = other.find? wanted) : registry = other := by
  refine ext ?_
  rw [← filterMap_find?_identifiers registry, ← filterMap_find?_identifiers other, order, funext same]

/-- Putting an object keeps every identifier and takes its own. -/
theorem mem_identifiers_put {added : α} :
    wanted ∈ (registry.put added).identifiers ↔
      wanted = identifier added ∨ wanted ∈ registry.identifiers := by
  rw [identifiers, put, map_identifier_putMember]
  split
  · rename_i present
    constructor
    · exact Or.inr
    · rintro (rfl | kept)
      · exact present
      · exact kept
  · simp [identifiers, or_comm]

/-- An object under a free identifier goes to the end. -/
theorem members_put_of_absent {added : α} (absent : identifier added ∉ registry.identifiers) :
    (registry.put added).members = registry.members ++ [added] := by
  have atEnd : ∀ members : List α, identifier added ∉ members.map identifier →
      putMember added members = members ++ [added] := by
    intro members
    induction members with
    | nil => simp [putMember]
    | cons first rest inductionHypothesis =>
      intro free
      simp only [List.map_cons, List.mem_cons, not_or] at free
      simp [putMember, Ne.symm free.1, inductionHypothesis free.2]
  exact atEnd registry.members absent

/-- An object under a taken identifier replaces the one that has it, and all others stay in their places. -/
theorem members_put_of_mem {added : α} (taken : identifier added ∈ registry.identifiers) :
    (registry.put added).members =
      registry.members.map fun member => if identifier member = identifier added then added else member := by
  have inPlace : ∀ members : List α, (members.map identifier).Nodup →
      identifier added ∈ members.map identifier →
      putMember added members =
        members.map fun member => if identifier member = identifier added then added else member := by
    intro members
    induction members with
    | nil => simp
    | cons first rest inductionHypothesis =>
      intro distinct present
      obtain ⟨alone, restDistinct⟩ := List.nodup_cons.mp distinct
      by_cases same : identifier first = identifier added
      · have others : ∀ member ∈ rest,
            (if identifier member = identifier added then added else member) = member := by
          intro member among
          refine if_neg fun again => alone ?_
          rw [same, ← again]
          exact List.mem_map_of_mem among
        rw [putMember, if_pos same, List.map_cons, if_pos same, List.map_congr_left others, List.map_id']
      · have further := List.mem_of_ne_of_mem (Ne.symm same) present
        rw [putMember, if_neg same, List.map_cons, if_neg same, inductionHypothesis restDistinct further]
  exact inPlace registry.members registry.distinct taken

/-- Replacing an object by one that is alike in some respect changes nothing in this respect. -/
theorem map_members_put {β : Type} (view : α → β) {old added : α}
    (found : registry.find? (identifier added) = some old) (alike : view added = view old) :
    (registry.put added).members.map view = registry.members.map view := by
  obtain ⟨present, same⟩ := find?_eq_some_iff.mp found
  have taken : identifier added ∈ registry.identifiers := same ▸ List.mem_map_of_mem present
  rw [members_put_of_mem taken, List.map_map]
  refine List.map_congr_left fun member among => ?_
  show view (if identifier member = identifier added then added else member) = view member
  split
  · rename_i replaced
    rw [eq_of_identifier_eq among present (replaced.trans same.symm), alike]
  · rfl

/-- Of two objects put under one identifier the second remains. -/
@[simp] theorem put_put {first second : α} (same : identifier first = identifier second) :
    (registry.put first).put second = registry.put second := by
  have remains : ∀ members : List α,
      putMember second (putMember first members) = putMember second members := by
    intro members
    induction members with
    | nil => simp [putMember, same]
    | cons head rest inductionHypothesis =>
      by_cases replaced : identifier head = identifier second
      · simp [putMember, same, replaced]
      · simp [putMember, same, replaced, inductionHypothesis]
  exact ext (remains registry.members)

/-- The registry of one object. -/
def single (member : α) : Registry α := empty.put member

@[simp] theorem members_single (member : α) : (single member).members = [member] := rfl

/-- The registry of so many objects that are made from their numbers, counted from zero. -/
def numbered (make : Nat → α) (numbers : ∀ index, identifier (make index) = index) (count : Nat) :
    Registry α where
  members := (List.range count).map make
  distinct := by
    have identifiers : identifier ∘ make = fun index : Nat => (index : Int) := funext numbers
    rw [List.map_map, identifiers]
    exact List.nodup_range.map fun _ _ equal => Int.ofNat.inj equal

/-- A registry to which one more object was put. -/
theorem ofList_concat (members : List α) (added : α) :
    ofList (members ++ [added]) = (ofList members).put added := by
  simp [ofList]

/-- Objects with different identifiers keep their order. -/
theorem members_ofList {members : List α} (distinct : (members.map identifier).Nodup) :
    (ofList members).members = members := by
  induction members using List.reverseRecOn with
  | nil => rfl
  | append_singleton earlier added inductionHypothesis =>
    rw [List.map_append, List.nodup_append] at distinct
    have same := inductionHypothesis distinct.1
    have absent : identifier added ∉ (ofList earlier).identifiers := by
      rw [identifiers, same]
      intro present
      exact distinct.2.2 _ present _ (by simp) rfl
    rw [ofList_concat, members_put_of_absent absent, same]

/-- The members of a registry put one after another are the registry. -/
theorem ofList_members (registry : Registry α) : ofList registry.members = registry :=
  ext (members_ofList registry.distinct)

/-- Every object in the registry of some objects is one of them. -/
theorem mem_of_mem_ofList {members : List α} (present : member ∈ (ofList members).members) :
    member ∈ members := by
  induction members using List.reverseRecOn with
  | nil => cases present
  | append_singleton earlier added inductionHypothesis =>
    rw [ofList_concat] at present
    obtain rfl | ⟨kept, _⟩ := mem_put.mp present
    · exact List.mem_append_right _ (List.mem_singleton_self _)
    · exact List.mem_append_left _ (inductionHypothesis kept)

/-- Objects that are numbered by their places are the numbered registry. -/
theorem ofList_eq_numbered {make : Nat → α} (numbers : ∀ index, identifier (make index) = index)
    (count : Nat) : ofList ((List.range count).map make) = numbered make numbers count :=
  ext (members_ofList (numbered make numbers count).distinct)

end TraceAutomata.Registry
