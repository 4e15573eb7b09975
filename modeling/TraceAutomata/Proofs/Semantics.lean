import Mathlib.Logic.Relation
import TraceAutomata.Traversal

/-!
# Runs of automata

Guards and updates are texts, so what an automaton does depends on how they are read. A `Meaning` reads
them over any type of states: guards as conditions on a state, updates as changes of it. Under a meaning a
template takes steps from one configuration to another, each over one of its edges.
-/

namespace TraceAutomata

universe u

/-- A reading of the texts of guards and of updates over a type of states. -/
structure Meaning (State : Type u) where
  holds : String → State → Prop
  perform : String → State → State

/-- A location together with a state. -/
structure Configuration (State : Type u) where
  location : Int
  state : State

variable {State : Type u}

/-- A meaning reads the conjunction of some tests as the condition that all of them hold. -/
def Meaning.Conjunctive (meaning : Meaning State) : Prop :=
  ∀ tests, tests ≠ [] → ∀ state,
    meaning.holds (Traversal.conjunction tests) state ↔ ∀ test ∈ tests, meaning.holds test state

namespace Meaning

/-- A mark that is not part of a separator occurs in joined texts exactly when it occurs in one of them. -/
theorem mem_intercalate {mark : Char} {separator : String} (apart : mark ∉ separator.toList)
    (texts : List String) :
    mark ∈ (separator.intercalate texts).toList ↔ ∃ text ∈ texts, mark ∈ text.toList := by
  induction texts with
  | nil => simp
  | cons first rest inductionHypothesis =>
    cases rest with
    | nil => simp
    | cons second others =>
      rw [String.intercalate_cons_cons, String.toList_append, String.toList_append]
      simp only [List.mem_append, apart, or_false, inductionHypothesis]
      constructor
      · rintro (marked | ⟨text, present, marked⟩)
        · exact ⟨first, List.mem_cons_self, marked⟩
        · exact ⟨text, List.mem_cons_of_mem first present, marked⟩
      · rintro ⟨text, present, marked⟩
        rcases List.mem_cons.mp present with rfl | later
        · exact .inl marked
        · exact .inr ⟨text, later, marked⟩

/-- An exclamation mark occurs in a conjunction exactly when it occurs in one of the tests. -/
theorem mark_mem_conjunction (tests : List String) :
    '!' ∈ (Traversal.conjunction tests).toList ↔ ∃ test ∈ tests, '!' ∈ test.toList := by
  unfold Traversal.conjunction
  split
  · simp
  · rw [mem_intercalate (by decide)]
    constructor
    · rintro ⟨_, enclosed, marked⟩
      obtain ⟨test, present, rfl⟩ := List.mem_map.mp enclosed
      exact ⟨test, present, by simpa using marked⟩
    · rintro ⟨test, present, marked⟩
      exact ⟨_, List.mem_map.mpr ⟨test, present, rfl⟩, by simp [marked]⟩

/-- States count updates, and a test with an exclamation mark holds after the first of them. -/
def counting : Meaning Nat where
  holds text count := '!' ∈ text.toList → 0 < count
  perform _ count := count + 1

theorem conjunctive_counting : counting.Conjunctive := by
  intro tests _ count
  show ('!' ∈ (Traversal.conjunction tests).toList → 0 < count) ↔
    ∀ test ∈ tests, '!' ∈ test.toList → 0 < count
  rw [mark_mem_conjunction]
  constructor
  · intro required test present marked
    exact required ⟨test, present, marked⟩
  · rintro required ⟨test, present, marked⟩
    exact required test present marked

end Meaning

/-- An edge without a guard is always enabled, one with a guard when it holds. -/
def Edge.Enabled (meaning : Meaning State) (edge : Edge) (state : State) : Prop :=
  ∀ guard, edge.guard = some guard → meaning.holds guard.text state

/-- The state after the updates of an edge, in their order. -/
def Edge.performed (meaning : Meaning State) (edge : Edge) (state : State) : State :=
  edge.updates.foldl (fun current update => meaning.perform update.text current) state

namespace Template

/-- One step of a template over an enabled edge. -/
inductive Step (meaning : Meaning State) (template : Template) :
    Configuration State → Configuration State → Prop
  | taking {edge : Edge} {source target : Int} {state : State}
      (present : edge ∈ template.edges.members)
      (leaves : edge.source = some source) (enters : edge.target = some target)
      (enabled : edge.Enabled meaning state) :
      Step meaning template ⟨source, state⟩ ⟨target, edge.performed meaning state⟩

/-- Any number of steps of a template. -/
def Reaches (meaning : Meaning State) (template : Template) :
    Configuration State → Configuration State → Prop :=
  Relation.ReflTransGen (template.Step meaning)

end Template

end TraceAutomata
