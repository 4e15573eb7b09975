import TraceAutomata.Proofs.Chain.Construction
import TraceAutomata.Proofs.Semantics

/-!
# Traversal keeps the order of a trace

The chain of a trace runs exactly as the trace does when its expressions are executed one after another.
Both are compared with crossing the links of the chain: `crosses_linksFrom` relates this to the trace, with
the tests that wait for an edge as a condition on the first state, and `reaches_iff_crosses` to the steps of
the template.
-/

namespace TraceAutomata.Chain

open Traversal

universe u
variable {State : Type u} {meaning : Meaning State}

/-! ## Executing a trace -/

/-- The expressions of a trace are executed in order: a test must hold, an assignment changes the state,
and a declaration does nothing. -/
inductive Executes (meaning : Meaning State) : List Occurrence → State → State → Prop
  | done (state : State) : Executes meaning [] state state
  | declared {text : String} {rest : List Occurrence} {before after : State}
      (others : Executes meaning rest before after) :
      Executes meaning (.declaration text :: rest) before after
  | tested {condition : String} {rest : List Occurrence} {before after : State}
      (passed : meaning.holds condition before) (others : Executes meaning rest before after) :
      Executes meaning (.test condition :: rest) before after
  | assigned {assigned : Assignment} {rest : List Occurrence} {before after : State}
      (others : Executes meaning rest (meaning.perform assigned.update before) after) :
      Executes meaning (.assignment assigned :: rest) before after

section Executes

variable {rest : List Occurrence} {before after : State}

theorem executes_nil_iff : Executes meaning [] before after ↔ before = after := by
  constructor
  · rintro ⟨⟩
    rfl
  · rintro rfl
    exact .done before

theorem executes_declaration_iff {text : String} :
    Executes meaning (.declaration text :: rest) before after ↔ Executes meaning rest before after := by
  constructor
  · rintro (_ | others)
    exact others
  · exact .declared

theorem executes_test_iff {condition : String} :
    Executes meaning (.test condition :: rest) before after ↔
      meaning.holds condition before ∧ Executes meaning rest before after := by
  constructor
  · rintro (_ | _ | ⟨passed, others⟩)
    exact ⟨passed, others⟩
  · rintro ⟨passed, others⟩
    exact .tested passed others

theorem executes_assignment_iff {assigned : Assignment} :
    Executes meaning (.assignment assigned :: rest) before after ↔
      Executes meaning rest (meaning.perform assigned.update before) after := by
  constructor
  · rintro (_ | _ | _ | others)
    exact others
  · exact .assigned

end Executes

/-! ## Crossing links -/

/-- Links are crossed in order. A link without an update leaves the state as it is. -/
inductive Crosses (meaning : Meaning State) : List Link → State → State → Prop
  | done (state : State) : Crosses meaning [] state state
  | cross {link : Link} {rest : List Link} {before after : State}
      (enabled : ∀ guard, link.guard = some guard → meaning.holds guard before)
      (others : Crosses meaning rest (link.update.elim before (meaning.perform · before)) after) :
      Crosses meaning (link :: rest) before after

section Crosses

variable {first second : List Link} {before after : State}

theorem crosses_nil_iff : Crosses meaning [] before after ↔ before = after := by
  constructor
  · rintro ⟨⟩
    rfl
  · rintro rfl
    exact .done before

theorem crosses_cons_iff {link : Link} :
    Crosses meaning (link :: first) before after ↔
      (∀ guard, link.guard = some guard → meaning.holds guard before) ∧
        Crosses meaning first (link.update.elim before (meaning.perform · before)) after := by
  constructor
  · rintro (_ | ⟨enabled, others⟩)
    exact ⟨enabled, others⟩
  · rintro ⟨enabled, others⟩
    exact .cross enabled others

/-- Links in two parts are crossed by way of a state between them. -/
theorem crosses_append_iff :
    Crosses meaning (first ++ second) before after ↔
      ∃ middle, Crosses meaning first before middle ∧ Crosses meaning second middle after := by
  induction first generalizing before with
  | nil =>
    constructor
    · intro crossed
      exact ⟨before, .done before, crossed⟩
    · rintro ⟨middle, none, crossed⟩
      rw [crosses_nil_iff.mp none]
      exact crossed
  | cons link rest inductionHypothesis =>
    simp only [List.cons_append, crosses_cons_iff, inductionHypothesis]
    constructor
    · rintro ⟨enabled, middle, left, right⟩
      exact ⟨middle, ⟨enabled, left⟩, right⟩
    · rintro ⟨middle, ⟨enabled, left⟩, right⟩
      exact ⟨enabled, middle, left, right⟩

/-- Crossing links leads to one state at most. -/
theorem Crosses.unique {other : State} (one : Crosses meaning first before after)
    (two : Crosses meaning first before other) : after = other := by
  induction one with
  | done state => exact crosses_nil_iff.mp two
  | cross enabled others inductionHypothesis =>
    exact inductionHypothesis (crosses_cons_iff.mp two).2

end Crosses

/-- The guard of tests that wait holds exactly when each of them does. -/
theorem pendingGuard_holds_iff (conjunctive : meaning.Conjunctive) (tests : List String)
    (state : State) :
    (∀ guard, pendingGuard tests = some guard → meaning.holds guard state) ↔
      ∀ test ∈ tests, meaning.holds test state := by
  unfold pendingGuard
  by_cases none : tests = []
  · simp [none]
  · simp only [none, List.isEmpty_iff, if_false, Option.some.injEq, forall_eq']
    exact conjunctive tests none state

/-- The links of some expressions are crossed exactly when the tests that wait hold and the expressions
are executed. -/
theorem crosses_linksFrom (conjunctive : meaning.Conjunctive) {tests : List String}
    {sequence : List Occurrence} {before after : State} :
    Crosses meaning (linksFrom tests sequence) before after ↔
      (∀ test ∈ tests, meaning.holds test before) ∧ Executes meaning sequence before after := by
  induction sequence generalizing tests before with
  | nil =>
    by_cases none : tests = []
    · simp [linksFrom, none, crosses_nil_iff, executes_nil_iff]
    · simp only [linksFrom, none, if_false]
      rw [crosses_cons_iff, pendingGuard_holds_iff conjunctive, crosses_nil_iff, executes_nil_iff]
      rfl
  | cons occurrence rest inductionHypothesis =>
    cases occurrence with
    | declaration text =>
      rw [linksFrom, inductionHypothesis, executes_declaration_iff]
    | test condition =>
      rw [linksFrom, inductionHypothesis, executes_test_iff]
      simp only [List.mem_append, List.mem_singleton, or_imp, forall_and, forall_eq, and_assoc]
    | assignment assigned =>
      rw [linksFrom, crosses_cons_iff, pendingGuard_holds_iff conjunctive, executes_assignment_iff,
        inductionHypothesis]
      simp

/-! ## Steps of a chain -/

/-- The edge of a link is taken exactly when the link is crossed. -/
theorem edgeOf_crosses_iff {index : Nat} {link : Link} {before after : State} :
    (edgeOf index link).Enabled meaning before ∧ (edgeOf index link).performed meaning before = after ↔
      Crosses meaning [link] before after := by
  have enabled : (edgeOf index link).Enabled meaning before ↔
      ∀ guard, link.guard = some guard → meaning.holds guard before := by
    cases guarded : link.guard <;> simp [Edge.Enabled, edgeOf, guarded]
  have performed : (edgeOf index link).performed meaning before =
      link.update.elim before (meaning.perform · before) := by
    cases updated : link.update <;> simp [Edge.performed, edgeOf, updated]
  rw [enabled, performed, crosses_cons_iff, crosses_nil_iff]

section Steps

variable {config : Config} {name : String} {statements : List Statement}

/-- A chain takes a step exactly by crossing the link that leaves its location. -/
theorem step_iff {before after : Configuration State} :
    (template config name statements).Step meaning before after ↔
      ∃ (index : Nat) (link : Link), (links statements)[index]? = some link ∧
        before.location = index ∧ after.location = index + 1 ∧
        Crosses meaning [link] before.state after.state := by
  have edges : (template config name statements).edges.members = (links statements).mapIdx edgeOf :=
    mapIdx_edgeOf.symm
  constructor
  · rintro ⟨present, leaves, enters, enabled⟩
    rw [edges] at present
    obtain ⟨index, within, rfl⟩ := List.mem_mapIdx.mp present
    refine ⟨index, (links statements)[index], List.getElem?_eq_getElem within, ?_, ?_, ?_⟩
    · exact (Option.some.inj leaves).symm
    · exact (Option.some.inj enters).symm
    · exact edgeOf_crosses_iff.mp ⟨enabled, rfl⟩
  · obtain ⟨source, first⟩ := before
    obtain ⟨target, second⟩ := after
    rintro ⟨index, link, located, rfl, rfl, crossed⟩
    obtain ⟨within, rfl⟩ := List.getElem?_eq_some_iff.mp located
    have taken : (edgeOf index (links statements)[index]).Enabled meaning first ∧
        (edgeOf index (links statements)[index]).performed meaning first = second :=
      edgeOf_crosses_iff.mpr crossed
    obtain ⟨enabled, rfl⟩ := taken
    refine .taking ?_ rfl rfl enabled
    rw [edges]
    exact List.mem_mapIdx.mpr ⟨index, within, rfl⟩

/-- The configurations that a chain reaches are those behind some links that were crossed. -/
theorem reaches_iff_crosses {start : State} {configuration : Configuration State} :
    (template config name statements).Reaches meaning ⟨0, start⟩ configuration ↔
      ∃ count : Nat, count ≤ (links statements).length ∧ configuration.location = count ∧
        Crosses meaning ((links statements).take count) start configuration.state := by
  constructor
  · intro reached
    induction reached with
    | refl => exact ⟨0, Nat.zero_le _, rfl, .done start⟩
    | tail earlier step inductionHypothesis =>
      obtain ⟨count, bounded, located, crossed⟩ := inductionHypothesis
      obtain ⟨index, link, present, leaves, enters, last⟩ := step_iff.mp step
      obtain ⟨within, rfl⟩ := List.getElem?_eq_some_iff.mp present
      have same : count = index := Int.ofNat.inj (located.symm.trans leaves)
      subst same
      refine ⟨count + 1, within, enters, ?_⟩
      rw [List.take_succ_eq_append_getElem within]
      exact crosses_append_iff.mpr ⟨_, crossed, last⟩
  · obtain ⟨location, state⟩ := configuration
    rintro ⟨count, bounded, rfl, crossed⟩
    induction count generalizing state with
    | zero =>
      obtain rfl := crosses_nil_iff.mp crossed
      exact .refl
    | succ count inductionHypothesis =>
      rw [List.take_succ_eq_append_getElem bounded] at crossed
      obtain ⟨middle, earlier, last⟩ := crosses_append_iff.mp crossed
      refine .tail (inductionHypothesis middle (Nat.le_of_lt bounded) earlier) ?_
      exact step_iff.mpr ⟨count, _, List.getElem?_eq_getElem bounded, rfl, rfl, last⟩

/-- A chain reaches a location of a number exactly by crossing so many links. -/
theorem reaches_number_iff {start reached : State} {count : Nat}
    (bounded : count ≤ (links statements).length) :
    (template config name statements).Reaches meaning ⟨0, start⟩ ⟨count, reached⟩ ↔
      Crosses meaning ((links statements).take count) start reached := by
  rw [reaches_iff_crosses]
  constructor
  · rintro ⟨other, _, same, crossed⟩
    rw [Int.ofNat.inj same]
    exact crossed
  · intro crossed
    exact ⟨count, bounded, rfl, crossed⟩

end Steps

/-! ## Parts of a trace -/

/-- The number of assignments among some expressions. -/
def assignmentCount (sequence : List Occurrence) : Nat :=
  (sequence.filterMap Occurrence.assignment?).length

/-- The links up to an assignment come before those of the rest, for which no test waits. -/
theorem linksFrom_upTo (tests : List String) (earlier : List Occurrence) (assigned : Assignment)
    (later : List Occurrence) :
    linksFrom tests (earlier ++ .assignment assigned :: later) =
      linksFrom tests (earlier ++ [.assignment assigned]) ++ linksFrom [] later := by
  induction earlier generalizing tests with
  | nil => rfl
  | cons occurrence rest inductionHypothesis =>
    cases occurrence with
    | declaration text => exact inductionHypothesis tests
    | test condition => exact inductionHypothesis (tests ++ [condition])
    | assignment other =>
      simp only [List.cons_append, linksFrom]
      rw [inductionHypothesis]

/-- There is one link for each assignment up to an assignment. -/
theorem length_linksFrom_upTo (tests : List String) (earlier : List Occurrence)
    (assigned : Assignment) :
    (linksFrom tests (earlier ++ [.assignment assigned])).length = assignmentCount earlier + 1 := by
  induction earlier generalizing tests with
  | nil => rfl
  | cons occurrence rest inductionHypothesis =>
    cases occurrence with
    | declaration text => exact inductionHypothesis tests
    | test condition => exact inductionHypothesis (tests ++ [condition])
    | assignment other =>
      simp only [List.cons_append, linksFrom, List.length_cons]
      rw [inductionHypothesis]
      rfl

/-- An assignment of each number below the count is somewhere in the sequence. -/
theorem exists_upTo {sequence : List Occurrence} {index : Nat}
    (within : index < assignmentCount sequence) :
    ∃ earlier assigned later, sequence = earlier ++ .assignment assigned :: later ∧
      assignmentCount earlier = index := by
  induction sequence generalizing index with
  | nil => exact absurd within (Nat.not_lt_zero index)
  | cons occurrence rest inductionHypothesis =>
    cases occurrence with
    | declaration text =>
      obtain ⟨earlier, assigned, later, rfl, counted⟩ := inductionHypothesis within
      exact ⟨.declaration text :: earlier, assigned, later, rfl, counted⟩
    | test condition =>
      obtain ⟨earlier, assigned, later, rfl, counted⟩ := inductionHypothesis within
      exact ⟨.test condition :: earlier, assigned, later, rfl, counted⟩
    | assignment other =>
      cases index with
      | zero => exact ⟨[], other, rest, rfl, rfl⟩
      | succ index =>
        obtain ⟨earlier, assigned, later, rfl, counted⟩ :=
          inductionHypothesis (Nat.lt_of_succ_lt_succ within)
        refine ⟨.assignment other :: earlier, assigned, later, rfl, ?_⟩
        rw [← counted]
        rfl

/-- At most one link has no assignment. -/
theorem length_links_le (statements : List Statement) :
    (links statements).length ≤ assignmentCount (occurrences statements) + 1 := by
  rw [length_links, length]
  split
  · exact Nat.le_succ _
  · exact Nat.le_refl _

/-! ## Runs and executions -/

/-- How the runs of a template from its initial location relate to executions of a trace from the same
state. -/
structure Follows (meaning : Meaning State) (template : Template) (initial last : Int)
    (sequence : List Occurrence) (start : State) : Prop where
  /-- Runs to the last location are executions of the whole trace. -/
  whole : ∀ final, template.Reaches meaning ⟨initial, start⟩ ⟨last, final⟩ ↔
    Executes meaning sequence start final
  /-- Runs to the location of an assignment are executions up to that assignment. -/
  upTo : ∀ earlier assigned later, sequence = earlier ++ .assignment assigned :: later →
    ∃ location, template.locations.members[assignmentCount earlier + 1]? = some location ∧
      ∀ reached, template.Reaches meaning ⟨initial, start⟩ ⟨location.id, reached⟩ ↔
        Executes meaning (earlier ++ [.assignment assigned]) start reached
  /-- No other configuration than these and the first one is reached. -/
  only : ∀ configuration, template.Reaches meaning ⟨initial, start⟩ configuration →
    configuration = ⟨initial, start⟩ ∨
      configuration.location = last ∧ Executes meaning sequence start configuration.state ∨
      ∃ earlier assigned later location, sequence = earlier ++ .assignment assigned :: later ∧
        template.locations.members[assignmentCount earlier + 1]? = some location ∧
        configuration.location = location.id ∧
        Executes meaning (earlier ++ [.assignment assigned]) start configuration.state
  /-- No location is reached with two states. -/
  unique : ∀ location one other, template.Reaches meaning ⟨initial, start⟩ ⟨location, one⟩ →
    template.Reaches meaning ⟨initial, start⟩ ⟨location, other⟩ → one = other

section Follows

variable {config : Config} {name : String} {statements : List Statement}

theorem getElem?_locations {number : Nat} (within : number ≤ length statements) :
    (template config name statements).locations.members[number]? =
      some (locationAt config statements number) := by
  show ((List.range (length statements + 1)).map (locationAt config statements))[number]? = _
  rw [List.getElem?_map, List.getElem?_range (Nat.lt_succ_of_le within)]
  rfl

theorem getLast?_locations :
    (template config name statements).locations.members.getLast? =
      some (locationAt config statements (length statements)) := by
  show ((List.range (length statements + 1)).map (locationAt config statements)).getLast? = _
  rw [List.range_succ, List.map_append, List.map_singleton, List.getLast?_concat]

/-- The links up to an assignment are crossed exactly when the expressions up to it are executed. -/
theorem crosses_upTo (conjunctive : meaning.Conjunctive) {earlier later : List Occurrence}
    {assigned : Assignment} (split : occurrences statements = earlier ++ .assignment assigned :: later)
    {start reached : State} :
    Crosses meaning ((links statements).take (assignmentCount earlier + 1)) start reached ↔
      Executes meaning (earlier ++ [.assignment assigned]) start reached := by
  have taken : (links statements).take (assignmentCount earlier + 1) =
      linksFrom [] (earlier ++ [.assignment assigned]) := by
    rw [links, split, linksFrom_upTo, ← length_linksFrom_upTo [] earlier assigned, List.take_left]
  rw [taken, crosses_linksFrom conjunctive]
  simp

/-- The links of a whole trace are crossed exactly when it is executed. -/
theorem crosses_links (conjunctive : meaning.Conjunctive) {start final : State} :
    Crosses meaning (links statements) start final ↔
      Executes meaning (occurrences statements) start final := by
  rw [links, crosses_linksFrom conjunctive]
  simp

/-- The location of an assignment is one of the chain. -/
theorem assignmentCount_lt {earlier later : List Occurrence} {assigned : Assignment}
    (split : occurrences statements = earlier ++ .assignment assigned :: later) :
    assignmentCount earlier + 1 ≤ (links statements).length := by
  rw [links, split, linksFrom_upTo, List.length_append, length_linksFrom_upTo]
  exact Nat.le_add_right _ _

/-- The chain of a trace runs as the trace is executed. -/
theorem follows_template (conjunctive : meaning.Conjunctive) (start : State) :
    Follows meaning (template config name statements) 0 (length statements)
      (occurrences statements) start := by
  constructor
  case whole =>
    intro final
    rw [← length_links, reaches_number_iff (Nat.le_refl _), List.take_length, crosses_links conjunctive]
  case upTo =>
    intro earlier assigned later split
    have bounded := assignmentCount_lt split
    refine ⟨_, getElem?_locations (length_links statements ▸ bounded), fun reached => ?_⟩
    rw [id_locationAt, reaches_number_iff bounded, crosses_upTo conjunctive split]
  case only =>
    rintro ⟨location, state⟩ reached
    obtain ⟨count, bounded, located, crossed⟩ := reaches_iff_crosses.mp reached
    obtain rfl : location = count := located
    rcases Nat.eq_or_lt_of_le bounded with all | fewer
    · right; left
      rw [all, List.take_length] at crossed
      have atEnd : count = length statements := all.trans (length_links statements)
      exact ⟨congrArg Nat.cast atEnd, (crosses_links conjunctive).mp crossed⟩
    · cases count with
      | zero =>
        left
        rw [crosses_nil_iff.mp crossed]
        rfl
      | succ index =>
        right; right
        have numbered : index + 1 ≤ length statements := length_links statements ▸ bounded
        have within : index < assignmentCount (occurrences statements) := by
          have most := length_links_le statements
          omega
        obtain ⟨earlier, assigned, later, split, rfl⟩ := exists_upTo within
        refine ⟨earlier, assigned, later, _, split, getElem?_locations numbered, ?_, ?_⟩
        · rw [id_locationAt]
        · exact (crosses_upTo conjunctive split).mp crossed
  case unique =>
    intro location one other first second
    obtain ⟨count, bounded, located, crossed⟩ := reaches_iff_crosses.mp first
    obtain rfl : location = count := located
    exact crossed.unique ((reaches_number_iff bounded).mp second)

end Follows

/-- A traversal answers a network of one template, and from each state the runs of this template from its
initial location are the executions of the trace. -/
theorem exists_build_follows (meaning : Meaning State) (conjunctive : meaning.Conjunctive)
    (config : Config) (name : String) (statements : List Statement) (builder : Builder) :
    ∃ network after template initial last,
      (build config name statements builder).outcome = .ok (network, after) ∧
        network.templates.members = [template] ∧ template.initial = some initial ∧
        template.locations.members.getLast? = some last ∧
        ∀ start, Follows meaning template initial last.id (occurrences statements) start := by
  refine ⟨_, _, template config name statements, 0, _, build_outcome config name statements builder,
    rfl, rfl, getLast?_locations, fun start => ?_⟩
  rw [id_locationAt]
  exact follows_template conjunctive start

/-- Tests before, between and after assignments. -/
theorem counting_follows :
    Meaning.counting.Conjunctive ∧ ∃ network after template initial last,
      (build {} "Trace"
        [{ kind := .test, expressions := ["idle"] }, { kind := .assignment, expressions := ["x = 1", "y"] },
          { kind := .declaration, expressions := ["int x"] },
          { kind := .test, expressions := ["!done", "y"] }] {}).outcome = .ok (network, after) ∧
        network.templates.members = [template] ∧ template.initial = some initial ∧
        template.locations.members.getLast? = some last ∧
        ∀ start, Follows .counting template initial last.id
          [.test "idle", .assignment ⟨"x = 1", none⟩, .assignment ⟨"y", none⟩, .declaration "int x",
            .test "!done", .test "y"] start :=
  ⟨Meaning.conjunctive_counting,
    exists_build_follows .counting Meaning.conjunctive_counting _ _ _ _⟩

end TraceAutomata.Chain
