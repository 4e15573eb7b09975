import TraceAutomata.Proofs.Builder.Naming
import TraceAutomata.Proofs.Builder.Numbering

/-!
# Handles after a restart

A command that starts another network makes the builder forget all that came before (`runAll_restart`), and
the identifiers start from zero again. A handle therefore names something exactly when a command answered it
since (`knows_iff_created`). One that was answered before the restart is without effect until then
(`without_effect`), but it is not dead: it comes to name the object that is created under the same
identifiers, and commands then change that object (`stale_handle_revived`).
-/

namespace TraceAutomata

/-- A handle of an object of any kind. -/
inductive Handle
  | template (named : TemplateHandle)
  | location (named : LocationHandle)
  | edge (named : EdgeHandle)
  deriving DecidableEq, Repr

namespace Handle

/-- Whether a handle is the one of an edge. -/
def IsEdge : Handle → Prop
  | edge _ => True
  | template _ | location _ => False

end Handle

/-- The handle that a command answered for what it created. -/
def Creation.handle : Creation → Handle
  | .template named _ => .template named
  | .location named _ => .location named
  | .edge named => .edge named

/-- The handles that are given to a command. -/
def Command.handles : Command → List Handle
  | .addLocalDeclaration template _ => (template.map .template).toList
  | .newLocation _ template => (template.map .template).toList
  | .setInitialLocation location template =>
    (location.map .location).toList ++ (template.map .template).toList
  | .setLocationComment location _ => (location.map .location).toList
  | .newEdge template => (template.map .template).toList
  | .setEdgeEnd _ edge location => (edge.map .edge).toList ++ (location.map .location).toList
  | .setEdgeGuard edge _ => (edge.map .edge).toList
  | .addEdgeUpdate edge _ => (edge.map .edge).toList
  | .newAutomaton _ | .reset | .finalize | .addGlobalDeclaration _ | .addSystemDeclaration _
  | .newTemplate _ => []

/-- Whether a command sets something of an edge. -/
def Command.SetsEdge : Command → Prop
  | .setEdgeEnd _ _ _ | .setEdgeGuard _ _ | .addEdgeUpdate _ _ => True
  | _ => False

/-- Whether a handle names something in the network. -/
def Builder.Knows (builder : Builder) : Handle → Prop
  | .template named => builder.KnowsTemplate (some named)
  | .location named => builder.KnowsLocation named
  | .edge named => builder.KnowsEdge named

/-! ## What handles name -/

namespace Creation

variable {created : List Creation}

theorem mem_templates_iff {named : TemplateHandle} {name : String} :
    (named, name) ∈ templates created ↔ .template named name ∈ created := by
  rw [templates, List.mem_filterMap]
  constructor
  · rintro ⟨creation, among, told⟩
    cases creation <;> cases told
    exact among
  · exact fun among => ⟨_, among, rfl⟩

theorem mem_edges_iff {named : EdgeHandle} : named ∈ edges created ↔ .edge named ∈ created := by
  rw [edges, List.mem_filterMap]
  constructor
  · rintro ⟨creation, among, told⟩
    cases creation <;> cases told
    exact among
  · exact fun among => ⟨_, among, rfl⟩

/-- A template handle was answered exactly when the template is among those created. -/
theorem template_answered_iff {named : TemplateHandle} :
    .template named ∈ created.map handle ↔ ∃ name, (named, name) ∈ templates created := by
  simp only [mem_templates_iff, List.mem_map]
  constructor
  · rintro ⟨creation, among, told⟩
    cases creation <;> cases told
    exact ⟨_, among⟩
  · rintro ⟨name, among⟩
    exact ⟨_, among, rfl⟩

theorem location_answered_iff {named : LocationHandle} :
    .location named ∈ created.map handle ↔ ∃ stem, (named, stem) ∈ locations created := by
  simp only [mem_locations_iff, List.mem_map]
  constructor
  · rintro ⟨creation, among, told⟩
    cases creation <;> cases told
    exact ⟨_, among⟩
  · rintro ⟨stem, among⟩
    exact ⟨_, among, rfl⟩

theorem edge_answered_iff {named : EdgeHandle} :
    .edge named ∈ created.map handle ↔ named ∈ edges created := by
  simp only [mem_edges_iff, List.mem_map]
  constructor
  · rintro ⟨creation, among, told⟩
    cases creation <;> cases told
    exact among
  · exact fun among => ⟨_, among, rfl⟩

end Creation

namespace Recorded

variable {builder : Builder} {created : List Creation}

theorem knowsTemplate_iff (recorded : Recorded builder created) (named : TemplateHandle) :
    builder.KnowsTemplate (some named) ↔ ∃ name, (named, name) ∈ Creation.templates created := by
  simp only [Builder.KnowsTemplate, recorded.identifiers_templates, List.mem_map]
  constructor
  · rintro ⟨given, same, ⟨⟨id⟩, name⟩, among, rfl⟩
    cases same
    exact ⟨name, among⟩
  · rintro ⟨name, among⟩
    exact ⟨named, rfl, (named, name), among, rfl⟩

theorem knowsLocation_iff (recorded : Recorded builder created) (named : LocationHandle) :
    builder.KnowsLocation named ↔ ∃ stem, (named, stem) ∈ Creation.locations created := by
  constructor
  · rintro ⟨owner, present, own, taken⟩
    rw [recorded.identifiers_locations present, List.mem_map] at taken
    obtain ⟨⟨⟨id, template⟩, stem⟩, among, rfl⟩ := taken
    obtain ⟨created, hosted⟩ := List.mem_filter.mp among
    obtain rfl : template = named.template := by simpa [own] using hosted
    exact ⟨stem, created⟩
  · rintro ⟨stem, among⟩
    obtain ⟨owner, present, own⟩ := recorded.exists_template (recorded.locationHosts _ among)
    refine ⟨owner, present, own, ?_⟩
    rw [recorded.identifiers_locations present, List.mem_map]
    exact ⟨(named, stem), List.mem_filter.mpr ⟨among, by simp [own]⟩, rfl⟩

theorem knowsEdge_iff (recorded : Recorded builder created) (named : EdgeHandle) :
    builder.KnowsEdge named ↔ named ∈ Creation.edges created := by
  constructor
  · rintro ⟨owner, present, own, taken⟩
    rw [recorded.identifiers_edges present, List.mem_map] at taken
    obtain ⟨⟨id, template⟩, among, rfl⟩ := taken
    obtain ⟨created, hosted⟩ := List.mem_filter.mp among
    obtain rfl : template = named.template := by simpa [own] using hosted
    exact created
  · intro among
    obtain ⟨owner, present, own⟩ := recorded.exists_template (recorded.edgeHosts _ among)
    refine ⟨owner, present, own, ?_⟩
    rw [recorded.identifiers_edges present, List.mem_map]
    exact ⟨named, List.mem_filter.mpr ⟨among, by simp [own]⟩, rfl⟩

/-- A handle names something exactly when it was answered for something that is there. -/
theorem knows_iff (recorded : Recorded builder created) (handle : Handle) :
    builder.Knows handle ↔ handle ∈ created.map Creation.handle := by
  cases handle with
  | template named => exact (recorded.knowsTemplate_iff named).trans Creation.template_answered_iff.symm
  | location named => exact (recorded.knowsLocation_iff named).trans Creation.location_answered_iff.symm
  | edge named => exact (recorded.knowsEdge_iff named).trans Creation.edge_answered_iff.symm

end Recorded

/-! ## Commands on handles that name nothing -/

/-- What a command comes to that is given a handle without effect: it changes nothing, and it answers false
or fails. It answers false to the handle of an edge, and fails if it sets nothing of an edge. -/
structure Idle (before : Builder) (command : Command) (handle : Handle) : Prop where
  unchanged : (command.step before).builder = before
  ineffective : (command.step before).answer = .ok (.applied false) ∨
    ∃ error, (command.step before).answer = .error error
  passedOver : handle.IsEdge → (command.step before).answer = .ok (.applied false)
  refused : ¬command.SetsEdge → ∃ error, (command.step before).answer = .error error

namespace Command

variable {before : Builder} {command : Command} {handle : Handle}

theorem mem_given {α : Type} {given : Option α} {wrap : α → Handle} :
    handle ∈ (given.map wrap).toList ↔ ∃ named, given = some named ∧ handle = wrap named := by
  simp [Option.mem_toList, eq_comm]

theorem not_exists_known {named : EdgeHandle} (unknown : ¬before.KnowsEdge named) :
    ¬∃ present, some named = some present ∧ before.KnowsEdge present := by
  rintro ⟨present, same, known⟩
  cases same
  exact unknown known

/-- The handle of an edge that names nothing is passed over. -/
theorem passedOver_of_edge {named : EdgeHandle} (unknown : ¬before.KnowsEdge named)
    (given : .edge named ∈ command.handles) : command.PassedOver before := by
  cases command with
  | setEdgeEnd which edge location =>
    obtain rfl : edge = some named := by simpa [handles] using given
    exact .inl (not_exists_known unknown)
  | setEdgeGuard edge text =>
    obtain rfl : edge = some named := by simpa [handles] using given
    exact not_exists_known unknown
  | addEdgeUpdate edge text =>
    obtain rfl : edge = some named := by simpa [handles] using given
    exact not_exists_known unknown
  | _ => simp [handles] at given

/-- A command that sets nothing of an edge is refused when one of its handles names nothing. -/
theorem refused_of_unknown (unknown : ¬before.Knows handle) (given : handle ∈ command.handles)
    (other : ¬command.SetsEdge) : command.Refused before := by
  cases command with
  | addLocalDeclaration template text =>
    obtain ⟨named, rfl, rfl⟩ := mem_given.mp given
    exact unknown
  | newLocation stem template =>
    obtain ⟨named, rfl, rfl⟩ := mem_given.mp given
    exact unknown
  | newEdge template =>
    obtain ⟨named, rfl, rfl⟩ := mem_given.mp given
    exact unknown
  | setInitialLocation location template =>
    rintro ⟨owner, place, rfl, rfl, own, known⟩
    obtain isLocation | isTemplate := List.mem_append.mp given
    · obtain ⟨named, same, rfl⟩ := mem_given.mp isLocation
      cases same
      exact unknown known
    · obtain ⟨named, same, rfl⟩ := mem_given.mp isTemplate
      cases same
      obtain ⟨host, present, hosts, -⟩ := known
      exact unknown ⟨owner, rfl, List.mem_map.mpr ⟨host, present, hosts.trans own⟩⟩
  | setLocationComment location comment =>
    obtain ⟨named, rfl, rfl⟩ := mem_given.mp given
    exact ⟨named, rfl, unknown⟩
  | setEdgeEnd which edge location => exact absurd trivial other
  | setEdgeGuard edge text => exact absurd trivial other
  | addEdgeUpdate edge text => exact absurd trivial other
  | _ => cases given

theorem refused_or_passedOver (unknown : ¬before.Knows handle) (given : handle ∈ command.handles) :
    command.Refused before ∨ command.PassedOver before := by
  cases handle with
  | edge named => exact .inr (passedOver_of_edge unknown given)
  | template named =>
    refine .inl (refused_of_unknown unknown given ?_)
    cases command <;> simp [SetsEdge, handles] at given ⊢
  | location named =>
    cases command with
    | setEdgeEnd which edge location =>
      obtain rfl : location = some named := by simpa [handles] using given
      -- The edge counts first, and only then its new end.
      by_cases known : ∃ present, edge = some present ∧ before.KnowsEdge present
      · obtain ⟨present, rfl, knows⟩ := known
        exact .inl ⟨present, named, rfl, knows, rfl, fun both => unknown both.2⟩
      · exact .inr (.inl known)
    | setInitialLocation location template => exact .inl (refused_of_unknown unknown given id)
    | setLocationComment location comment => exact .inl (refused_of_unknown unknown given id)
    | _ => simp [handles] at given

/-- A handle that names nothing is without effect. -/
theorem idle_of_unknown (sound : before.network.Sound) (unknown : ¬before.Knows handle)
    (given : handle ∈ command.handles) : Idle before command handle := by
  have answers := answers_step sound command
  have ineffective := refused_or_passedOver unknown given
  refine ⟨answers.unchanged ineffective, ?_, fun isEdge => ?_, fun other => ?_⟩
  · exact ineffective.symm.imp answers.passedOver.mpr answers.refused.mpr
  · cases handle with
    | edge named => exact answers.passedOver.mpr (passedOver_of_edge unknown given)
    | template named => cases isEdge
    | location named => cases isEdge
  · exact answers.refused.mpr (refused_of_unknown unknown given other)

/-! ## Restarts -/

/-- A command that starts another network forgets what was there. -/
theorem builder_step_of_restarts (anew : command.restarts = true) (before : Builder) :
    (command.step before).builder = (command.step {}).builder := by
  cases command <;> first | rfl | cases anew

/-- What comes after a restart does not depend on what came before. -/
theorem runAll_restart (history further : List Command) (anew : command.restarts = true) :
    runAll {} (history ++ command :: further) = runAll (command.step {}).builder further := by
  rw [runAll, List.foldl_append, List.foldl_cons]
  exact congrArg (List.foldl _ · further) (builder_step_of_restarts anew _)

/-- What was created since the last restart does not depend on what came before it. -/
theorem creations_restart (history further : List Command) (anew : command.restarts = true) :
    creations {} (history ++ command :: further) = creations (command.step {}).builder further := by
  induction further using List.reverseRecOn with
  | nil => rw [creations_concat, anew]; rfl
  | append_singleton earlier last inductionHypothesis =>
    have same := runAll_restart history earlier anew
    rw [creations_concat, ← inductionHypothesis, ← same, ← creations_concat, List.append_assoc,
      List.cons_append]

/-- An edge that a handle names takes a guard. -/
theorem answer_setEdgeGuard {named : EdgeHandle} (known : before.KnowsEdge named) (text : String) :
    (step (.setEdgeGuard (some named) text) before).answer = .ok (.applied true) := by
  obtain ⟨⟨owner, edge⟩, found⟩ := Builder.knowsEdge_iff.mp known
  rw [answer_step]
  have performed : (perform (.setEdgeGuard (some named) text) before).outcome = _ :=
    outcome_bind_pure _ _ _
  rw [performed, Build.outcome_setEdgeGuard, found]
  rfl

/-- What handles come to after a restart and some more commands, whenever they were answered. Nothing is
left of the time before; a handle names something exactly when a command answered it since; one that none
has answered is without effect; and one that one has answered names an object that is there now. -/
theorem handles_after_restart (history further : List Command) {restart : Command}
    (anew : restart.restarts = true) :
    let builder := runAll {} (history ++ restart :: further)
    let answered := (creations (restart.step {}).builder further).map Creation.handle
    builder = runAll (restart.step {}).builder further ∧
      (∀ handle, builder.Knows handle ↔ handle ∈ answered) ∧
      (∀ handle, handle ∉ answered → ∀ command, handle ∈ command.handles →
        Idle builder command handle) ∧
      ∀ named, .edge named ∈ answered → ∀ text,
        (step (.setEdgeGuard (some named) text) builder).answer = .ok (.applied true) := by
  have recorded := recorded_runAll (history ++ restart :: further)
  rw [creations_restart history further anew] at recorded
  refine ⟨runAll_restart history further anew, recorded.knows_iff, ?_, ?_⟩
  · intro handle unanswered command given
    refine idle_of_unknown (sound_runAll _) (fun knows => unanswered ?_) given
    exact (recorded.knows_iff handle).mp knows
  · intro named answered text
    exact answer_setEdgeGuard ((recorded.knows_iff (.edge named)).mpr answered) text

/-- Before anything is created, the handle of an earlier edge is without effect. -/
theorem handles_after_reset :
    Command.reset.restarts = true ∧
      Idle (runAll {} ([.newTemplate "T", .newEdge (some ⟨0⟩)] ++ .reset :: [.newAutomaton "Again"]))
        (.setEdgeGuard (some ⟨0, 0⟩) "x > 0") (.edge ⟨0, 0⟩) :=
  ⟨rfl, (handles_after_restart [.newTemplate "T", .newEdge (some ⟨0⟩)] [.newAutomaton "Again"] rfl).2.2.1
    (.edge ⟨0, 0⟩) (by decide) _ (by decide)⟩

/-- Handles from before a restart do not stay without effect: an edge that is created under the same
identifiers takes the guard that was meant for the earlier one. -/
theorem stale_handle_revived :
    ¬∀ (history further : List Command) (restart command : Command) (handle : Handle),
      restart.restarts = true → handle ∈ (creations {} history).map Creation.handle →
        handle ∈ command.handles → Idle (runAll {} (history ++ restart :: further)) command handle := by
  intro always
  have idle := always [.newTemplate "T", .newEdge (some ⟨0⟩)]
    [.newAutomaton "Again", .newTemplate "U", .newEdge (some ⟨0⟩)] .reset
    (.setEdgeGuard (some ⟨0, 0⟩) "x > 0") (.edge ⟨0, 0⟩) rfl (by decide) (by decide)
  exact absurd (idle.passedOver trivial) (by decide)

end Command

end TraceAutomata
