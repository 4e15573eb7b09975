/-!
# Registries

A registry holds identified objects in the order in which their identifiers first came, at most one
under each identifier. Putting an object under an identifier that is taken replaces the object and keeps
the place, so a registry that only grows keeps its order.
-/

namespace TraceAutomata

/-- An object that carries an integer identifier. -/
class Identified (α : Type) where
  identifier : α → Int

open Identified (identifier)

/-- Objects in order, with different identifiers. -/
structure Registry (α : Type) [Identified α] where
  members : List α
  distinct : (members.map identifier).Nodup

namespace Registry

variable {α : Type} [Identified α]

/-- Replace the member with the same identifier in its place, or add the object at the end. -/
def putMember (member : α) : List α → List α
  | [] => [member]
  | first :: rest =>
    if identifier first = identifier member then member :: rest
    else first :: putMember member rest

/-- Putting an object keeps the identifiers, or adds its own at the end when it is new. -/
theorem map_identifier_putMember (member : α) (members : List α) :
    (putMember member members).map identifier =
      if identifier member ∈ members.map identifier then members.map identifier
      else members.map identifier ++ [identifier member] := by
  induction members with
  | nil => simp [putMember]
  | cons first rest inductionHypothesis =>
    by_cases same : identifier first = identifier member
    · simp [putMember, same]
    · have different : ¬identifier member = identifier first := fun equal => same equal.symm
      simp only [putMember, same, if_false, List.map_cons, inductionHypothesis, List.mem_cons,
        different, false_or]
      split <;> simp

/-- Putting an object keeps the identifiers different. -/
theorem nodup_putMember (member : α) {members : List α}
    (distinct : (members.map identifier).Nodup) :
    ((putMember member members).map identifier).Nodup := by
  rw [map_identifier_putMember]
  split
  · exact distinct
  · rename_i absent
    exact List.nodup_append.2 ⟨distinct, by simp, by
      intro left leftMember right rightMember equal
      simp only [List.mem_singleton] at rightMember
      exact absent (rightMember ▸ equal ▸ leftMember)⟩

/-- The registry without members. -/
def empty : Registry α := ⟨[], List.nodup_nil⟩

instance : Inhabited (Registry α) := ⟨empty⟩

/-- The registry with an object under its identifier. -/
def put (registry : Registry α) (member : α) : Registry α :=
  ⟨putMember member registry.members, nodup_putMember member registry.distinct⟩

/-- The registry of objects put one after another. -/
def ofList (members : List α) : Registry α :=
  members.foldl put empty

/-- The member under an identifier. -/
def find? (registry : Registry α) (wanted : Int) : Option α :=
  registry.members.find? fun member => identifier member == wanted

/-- Whether an identifier is taken. -/
def contains (registry : Registry α) (wanted : Int) : Bool :=
  (registry.find? wanted).isSome

/-- The identifiers in order. -/
def identifiers (registry : Registry α) : List Int :=
  registry.members.map identifier

/-- The number of members. -/
def size (registry : Registry α) : Nat :=
  registry.members.length

/-- The registry of changed members. The change keeps identifiers, so they stay different. -/
def map {β : Type} [Identified β] (change : α → β)
    (keeps : ∀ member, identifier (change member) = identifier member) (registry : Registry α) :
    Registry β where
  members := registry.members.map change
  distinct := by
    rw [List.map_map, show identifier ∘ change = identifier from funext keeps]
    exact registry.distinct

/-- Registries with the same members are the same. -/
@[ext]
theorem ext {left right : Registry α} (same : left.members = right.members) : left = right := by
  cases left
  cases right
  subst same
  rfl

instance [DecidableEq α] : DecidableEq (Registry α) := fun left right =>
  decidable_of_iff (left.members = right.members) ⟨ext, fun equal => equal ▸ rfl⟩

end Registry

end TraceAutomata
