import TraceAutomata.Proofs.Builder.Integrity
import TraceAutomata.Proofs.Xml.Validation

/-!
# When commands fail

A command fails when one of its handles names nothing in the network, and a few commands answer false
instead. `Refused` and `PassedOver` say when, in terms of the identifiers that are taken. In every builder
that commands have made, `answers_step` finds a command refused or passed over in exactly these cases, and
the builder is then afterwards what it was before. `effective_run` takes this to whole runs: commands
without effect can be left out.

The error of a command is raised with a wording that shows identifiers (`shown`). One with too many digits cannot be
written, and then the fault of writing it is raised in place of the error.
-/

namespace TraceAutomata

/-! ## Errors in words -/

/-- The identifiers that the wording of an error shows. -/
def BuildError.numbers : BuildError → List Int
  | .unknownTemplate handle => handle.toList.map TemplateHandle.id
  | .foreignLocation handle _ => [handle.id, handle.template]
  | .unknownLocation handle => [handle.id, handle.template]
  | .absentLocation => []
  | .incomplete problems => problems.flatMap Problem.numbers

/-- A handle with two identifiers is written when both of them are short. -/
theorem spelled_ownedHandleText (kind : String) (id template : Int) :
    Spelled [id, template] (ownedHandleText kind id template) :=
  (Spelled.integerText id).bind fun _ => (Spelled.integerText template).bind fun _ => .ok _

/-- An error is put in words unless one of its identifiers has too many digits. -/
theorem BuildError.spelled_message (error : BuildError) : Spelled error.numbers error.message := by
  cases error with
  | unknownTemplate handle =>
    cases handle with
    | none => exact .ok _
    | some named => exact ((Spelled.integerText named.id).bind fun _ => .ok _).bind fun _ => .ok _
  | foreignLocation handle template =>
    exact (Spelled.integerText handle.id).bind fun _ => (Spelled.integerText handle.template).bind fun _ => .ok _
  | unknownLocation handle => exact (spelled_ownedHandleText _ handle.id handle.template).bind fun _ => .ok _
  | absentLocation => exact .ok _
  | incomplete problems =>
    have listed := Spelled.mapM fun problem (_ : problem ∈ problems) => Problem.spelled_wording (.ok problem.name)
    have summarised : Spelled (problems.flatMap Problem.numbers) (Problem.summary .ok problems) := listed.map
    have worded := summarised.bind fun summary => .ok ("Model is not complete: " ++ summary)
    rwa [List.append_nil] at worded

/-! ## What handles name -/

namespace Builder

/-- A template handle is given, and its identifier is the one of a template. -/
def KnowsTemplate (builder : Builder) (handle : Option TemplateHandle) : Prop :=
  ∃ named, handle = some named ∧ named.id ∈ builder.network.templates.identifiers

/-- A location handle names a location of the template that the handle names. -/
def KnowsLocation (builder : Builder) (named : LocationHandle) : Prop :=
  ∃ owner ∈ builder.network.templates.members,
    owner.id = named.template ∧ named.id ∈ owner.locations.identifiers

/-- An edge handle names an edge of the template that the handle names. -/
def KnowsEdge (builder : Builder) (named : EdgeHandle) : Prop :=
  ∃ owner ∈ builder.network.templates.members,
    owner.id = named.template ∧ named.id ∈ owner.edges.identifiers

variable {builder : Builder} {owner : Template}

theorem knowsTemplate_iff {handle : Option TemplateHandle} :
    builder.KnowsTemplate handle ↔ ∃ owner, builder.owner? handle = some owner := by
  cases handle with
  | none => simp [KnowsTemplate, owner?]
  | some named =>
    have found : named.id ∈ builder.network.templates.identifiers ↔
        ∃ owner, builder.network.template? named.id = some owner := by
      rw [← Registry.contains_iff, ← Option.isSome_iff_exists]
      rfl
    simpa [KnowsTemplate, owner?] using found

/-- A location handle that names a template by its identifier is known exactly when the template has the
location. -/
theorem knowsLocation_iff {named : LocationHandle}
    (found : builder.network.template? owner.id = some owner) (own : named.template = owner.id) :
    builder.KnowsLocation named ↔ ∃ location, owner.location? named.id = some location := by
  rw [← Template.mem_identifiers_iff]
  constructor
  · rintro ⟨other, present, same, taken⟩
    rw [← Registry.eq_of_identifier_eq present (Registry.mem_of_find? found) (same.trans own)]
    exact taken
  · intro taken
    exact ⟨owner, Registry.mem_of_find? found, own.symm, taken⟩

/-- A location is looked up in a template of the network with success exactly when its handle names this
template and is known. -/
theorem resolveLocation_known (found : builder.network.template? owner.id = some owner)
    (named : LocationHandle) :
    (named.template = owner.id ∧ builder.KnowsLocation named ∧
        ∃ location, (Build.resolveLocation named owner builder).outcome = .ok (location, builder)) ∨
      (¬(named.template = owner.id ∧ builder.KnowsLocation named) ∧ ∃ error, error ≠ .absentLocation ∧
        error.numbers = [named.id, named.template] ∧
        (Build.resolveLocation named owner builder).outcome = .error error) := by
  rw [Build.outcome_resolveLocation]
  by_cases own : named.template = owner.id
  · rw [if_pos own, knowsLocation_iff found own]
    cases located : owner.location? named.id with
    | none => exact .inr ⟨by simp, _, by simp, rfl, rfl⟩
    | some location => exact .inl ⟨own, ⟨location, rfl⟩, location, rfl⟩
  · rw [if_neg own]
    exact .inr ⟨fun both => own both.1, _, by simp, rfl, rfl⟩

/-- An edge handle names an edge exactly when the edge is found. -/
theorem knowsEdge_iff {named : EdgeHandle} :
    builder.KnowsEdge named ↔ ∃ found, builder.edgeNamed? (some named) = some found := by
  constructor
  · rintro ⟨owner, present, same, taken⟩
    have foundOwner : builder.network.template? named.template = some owner :=
      Registry.find?_eq_some_iff.mpr ⟨present, same⟩
    obtain ⟨edge, foundEdge⟩ := Option.isSome_iff_exists.mp (Registry.contains_iff.mpr taken)
    refine ⟨(owner, edge), ?_⟩
    show (builder.network.template? named.template).bind _ = _
    rw [foundOwner, Option.bind_some]
    show (owner.edges.find? named.id).bind _ = _
    rw [foundEdge]
    rfl
  · rintro ⟨⟨owner, edge⟩, known⟩
    obtain ⟨template, foundOwner, afterOwner⟩ := Option.bind_eq_some_iff.mp known
    obtain ⟨present, foundEdge, answered⟩ := Option.bind_eq_some_iff.mp afterOwner
    cases answered
    refine ⟨owner, Registry.mem_of_find? foundOwner, Registry.identifier_of_find? foundOwner, ?_⟩
    exact Registry.contains_iff.mp (Option.isSome_iff_exists.mpr ⟨edge, foundEdge⟩)

/-- The edge that a handle names belongs to the template that the handle names. -/
theorem owner?_of_edgeNamed? (sound : builder.network.Sound) {named : EdgeHandle} {edge : Edge}
    (known : builder.edgeNamed? (some named) = some (owner, edge)) :
    owner.id = named.template ∧ builder.owner? (some ⟨edge.owner⟩) = some owner := by
  obtain ⟨foundOwner, foundEdge⟩ := found_of_edgeNamed? known
  obtain ⟨own, hosted⟩ := sound_of_edgeNamed? sound known
  have edgeOwner : edge.owner = owner.id := own.edgeOwner edge hosted
  obtain ⟨template, foundTemplate, afterTemplate⟩ := Option.bind_eq_some_iff.mp known
  obtain ⟨present, _, answered⟩ := Option.bind_eq_some_iff.mp afterTemplate
  cases answered
  refine ⟨Registry.identifier_of_find? foundTemplate, ?_⟩
  rw [edgeOwner]
  exact foundOwner

end Builder

namespace Command

/-! ## Commands without effect -/

/-- Why a command fails in a builder. -/
def Refused (builder : Builder) : Command → Prop
  | .finalize => builder.network.problems ≠ []
  | .addLocalDeclaration handle _ => ¬builder.KnowsTemplate handle
  | .newLocation _ handle => ¬builder.KnowsTemplate handle
  | .setInitialLocation location handle =>
    ¬∃ owner named, handle = some owner ∧ location = some named ∧ named.template = owner.id ∧
      builder.KnowsLocation named
  | .setLocationComment location _ => ∃ named, location = some named ∧ ¬builder.KnowsLocation named
  | .newEdge handle => ¬builder.KnowsTemplate handle
  | .setEdgeEnd _ edge location =>
    ∃ present named, edge = some present ∧ builder.KnowsEdge present ∧ location = some named ∧
      ¬(named.template = present.template ∧ builder.KnowsLocation named)
  | _ => False

/-- Why a command answers false in a builder. -/
def PassedOver (builder : Builder) : Command → Prop
  | .setLocationComment location _ => location = none
  | .setEdgeEnd _ edge location =>
    (¬∃ present, edge = some present ∧ builder.KnowsEdge present) ∨ location = none
  | .setEdgeGuard edge _ => ¬∃ present, edge = some present ∧ builder.KnowsEdge present
  | .addEdgeUpdate edge _ => ¬∃ present, edge = some present ∧ builder.KnowsEdge present
  | _ => False

/-- The one failure that is no matter of the network: no location is given to be the initial one of a
template that is known. -/
def LacksLocation (builder : Builder) : Command → Prop
  | .setInitialLocation none handle => builder.KnowsTemplate handle
  | _ => False

/-- The identifiers that the error of a command shows when it fails in a builder: those of the first handle that is
looked up in vain, or those in the problems of the network. -/
def shown (before : Builder) : Command → List Int
  | .finalize => before.network.problems.flatMap Problem.numbers
  | .addLocalDeclaration handle _ | .newLocation _ handle | .newEdge handle => handle.toList.map TemplateHandle.id
  | .setInitialLocation location handle =>
    if (before.owner? handle).isSome then location.toList.flatMap fun named => [named.id, named.template]
    else handle.toList.map TemplateHandle.id
  | .setLocationComment location _ => location.toList.flatMap fun named =>
    if (before.owner? (some ⟨named.template⟩)).isSome then [named.id, named.template] else [named.template]
  | .setEdgeEnd _ _ location => location.toList.flatMap fun named => [named.id, named.template]
  | _ => []

/-- When a command fails, what is raised then, when it answers false, and that nothing is changed in both cases. -/
structure Answers (before : Builder) (command : Command) (performed : Performed) : Prop where
  refused : (∃ error, performed.answer = .error error) ↔ command.Refused before
  lacking : performed.answer = .error .absentLocation ↔ command.LacksLocation before
  /-- The error has a wording unless one of the identifiers in it has too many digits. -/
  worded : ∀ error, performed.answer = .error error → Spelled (command.shown before) error.message
  passedOver : performed.answer = .ok (.applied false) ↔ command.PassedOver before
  unchanged : command.Refused before ∨ command.PassedOver before → performed.builder = before

section Answers

variable {before : Builder} {command : Command}

theorem answer_step (command : Command) (before : Builder) :
    (command.step before).answer = (command.perform before).outcome.map Prod.fst := by
  show (command.perform before).answer = _
  unfold Built.outcome
  cases (command.perform before).answer <;> rfl

/-- An answer that is put together from the result of a command has the outcome of the command. -/
theorem outcome_bind_pure {α β : Type} (work : Build α) (answer : α → β) (before : Builder) :
    ((work >>= fun result => pure (answer result)) before).outcome =
      (work before).outcome.map fun result => (answer result.1, result.2) := by
  rw [Build.outcome_bind]
  cases (work before).outcome <;> rfl

/-- A command that fails is refused, and nothing is changed. -/
theorem Answers.of_error {error : BuildError}
    (failed : (command.perform before).outcome = .error error) (refused : command.Refused before)
    (shown : error.numbers = command.shown before) (lacking : error = .absentLocation ↔ command.LacksLocation before)
    (notPassed : ¬command.PassedOver before) : Answers before command (command.step before) where
  refused := by simp [answer_step, failed, Except.map, refused]
  lacking := by simp [answer_step, failed, Except.map, lacking]
  worded other raised := by
    rw [answer_step, failed] at raised
    obtain rfl := Except.error.inj raised
    exact shown ▸ error.spelled_message
  passedOver := by simp [answer_step, failed, Except.map, notPassed]
  unchanged _ := by rw [builder_step, failed, settled]

/-- A command that answers false is passed over, and nothing is changed. -/
theorem Answers.of_false (answered : (command.perform before).outcome = .ok (.applied false, before))
    (accepted : ¬command.Refused before) (complete : ¬command.LacksLocation before)
    (passed : command.PassedOver before) : Answers before command (command.step before) where
  refused := by simp [answer_step, answered, Except.map, accepted]
  lacking := by simp [answer_step, answered, Except.map, complete]
  worded := by simp [answer_step, answered, Except.map]
  passedOver := by simp [answer_step, answered, Except.map, passed]
  unchanged _ := by rw [builder_step, answered, settled]

/-- A command with another answer is neither refused nor passed over. -/
theorem Answers.of_answer {answer : Answer} {after : Builder}
    (answered : (command.perform before).outcome = .ok (answer, after))
    (effective : answer ≠ .applied false) (accepted : ¬command.Refused before)
    (complete : ¬command.LacksLocation before) (notPassed : ¬command.PassedOver before) :
    Answers before command (command.step before) where
  refused := by simp [answer_step, answered, Except.map, accepted]
  lacking := by simp [answer_step, answered, Except.map, complete]
  worded := by simp [answer_step, answered, Except.map]
  passedOver := by simp [answer_step, answered, Except.map, notPassed, effective]
  unchanged ineffective := (ineffective.elim accepted notPassed).elim

/-! ## Each command -/

/-- A command that changes one template needs this template and nothing else. -/
theorem Answers.of_owner {α : Type} {work : Build α} {answer : α → Answer}
    {handle : Option TemplateHandle} {after : Template → α × Builder}
    (outcome : (work before).outcome =
      match before.owner? handle with
      | some owner => .ok (after owner)
      | none => .error (.unknownTemplate handle))
    (performs : command.perform = work >>= fun result => pure (answer result))
    (effective : ∀ result, answer result ≠ .applied false)
    (refused : command.Refused before ↔ ¬before.KnowsTemplate handle)
    (shown : command.shown before = handle.toList.map TemplateHandle.id)
    (complete : ¬command.LacksLocation before) (notPassed : ¬command.PassedOver before) :
    Answers before command (command.step before) := by
  have performed := outcome_bind_pure work answer before
  rw [← performs, outcome] at performed
  cases known : before.owner? handle with
  | none =>
    rw [known] at performed
    refine .of_error performed (refused.mpr fun knows => ?_) shown.symm (by simp [complete]) notPassed
    obtain ⟨owner, found⟩ := Builder.knowsTemplate_iff.mp knows
    rw [known] at found
    cases found
  | some owner =>
    rw [known] at performed
    refine .of_answer performed (effective _) (fun unknown => ?_) complete notPassed
    exact refused.mp unknown (Builder.knowsTemplate_iff.mpr ⟨owner, known⟩)

theorem answers_setInitialLocation (location : Option LocationHandle)
    (handle : Option TemplateHandle) :
    Answers before (.setInitialLocation location handle)
      (step (.setInitialLocation location handle) before) := by
  have performed : (perform (.setInitialLocation location handle) before).outcome = _ :=
    outcome_bind_pure _ _ _
  rw [Build.outcome_setInitialLocation] at performed
  cases known : before.owner? handle with
  | none =>
    have unknown : ¬before.KnowsTemplate handle := by
      rw [Builder.knowsTemplate_iff, known]
      simp
    rw [known] at performed
    have shown : (setInitialLocation location handle).shown before = handle.toList.map TemplateHandle.id := by
      simp [Command.shown, known]
    refine .of_error performed ?_ shown.symm ?_ id
    · rintro ⟨owner, named, rfl, rfl, own, template, present, same, _⟩
      exact unknown ⟨owner, rfl, List.mem_map.mpr ⟨template, present, same.trans own⟩⟩
    · cases location <;> simp [LacksLocation, unknown]
  | some owner =>
    obtain ⟨wanted, rfl, foundOwner⟩ := Option.bind_eq_some_iff.mp known
    have same : owner.id = wanted.id := Registry.identifier_of_find? foundOwner
    rw [known] at performed
    cases location with
    | none =>
      refine .of_error performed ?_ (by simp [BuildError.numbers, shown, known]) ?_ id
      · rintro ⟨_, _, _, given, _⟩
        cases given
      · simp [LacksLocation, Builder.knowsTemplate_iff, known]
    | some named =>
      obtain ⟨own, knows, location, resolved⟩ | ⟨unknown, error, notAbsent, numbers, resolved⟩ :=
        Builder.resolveLocation_known (same ▸ foundOwner) named
      · simp only [resolved, Except.bind] at performed
        refine .of_answer performed (by simp) (fun refused => refused ?_) id id
        exact ⟨wanted, named, rfl, rfl, own.trans same, knows⟩
      · simp only [resolved, Except.bind] at performed
        refine .of_error performed ?_ (by simp [numbers, shown, known]) (by simp [LacksLocation, notAbsent]) id
        rintro ⟨_, _, ⟨rfl⟩, ⟨rfl⟩, own, knows⟩
        exact unknown ⟨own.trans same.symm, knows⟩

theorem answers_setLocationComment (location : Option LocationHandle) (comment : String) :
    Answers before (.setLocationComment location comment)
      (step (.setLocationComment location comment) before) := by
  have performed : (perform (.setLocationComment location comment) before).outcome = _ :=
    outcome_bind_pure _ _ _
  rw [Build.outcome_setLocationComment] at performed
  cases location with
  | none =>
    refine .of_false performed ?_ id rfl
    rintro ⟨_, given, _⟩
    cases given
  | some named =>
    have given : ¬(some named = none) := by simp
    simp only at performed
    cases known : before.owner? (some ⟨named.template⟩) with
    | none =>
      rw [known] at performed
      refine .of_error performed ⟨named, rfl, ?_⟩ (by simp [BuildError.numbers, shown, known])
        (by simp [LacksLocation]) given
      rintro ⟨template, present, same, _⟩
      have foundOwner : before.owner? (some ⟨named.template⟩) = some template :=
        Registry.find?_eq_some_iff.mpr ⟨present, same⟩
      rw [known] at foundOwner
      cases foundOwner
    | some owner =>
      have same : owner.id = named.template := Registry.identifier_of_find? known
      rw [known] at performed
      obtain ⟨_, knows, location, resolved⟩ | ⟨unknown, error, notAbsent, numbers, resolved⟩ :=
        Builder.resolveLocation_known (Builder.template?_of_owner? known) named
      · simp only [resolved, Except.bind] at performed
        refine .of_answer performed (by simp) ?_ id given
        rintro ⟨_, ⟨rfl⟩, unknown⟩
        exact unknown knows
      · simp only [resolved, Except.bind] at performed
        exact .of_error performed ⟨named, rfl, fun knows => unknown ⟨same.symm, knows⟩⟩
          (by simp [numbers, shown, known]) (by simp [LacksLocation, notAbsent]) given

/-- An edge handle that is absent or stale. -/
theorem not_knowsEdge {edge : Option EdgeHandle} (unknown : before.edgeNamed? edge = none) :
    ¬∃ present, edge = some present ∧ before.KnowsEdge present := by
  rintro ⟨present, rfl, knows⟩
  obtain ⟨found, known⟩ := Builder.knowsEdge_iff.mp knows
  rw [unknown] at known
  cases known

/-- An edge handle that was found is given and known. -/
theorem knowsEdge_of_edgeNamed? {edge : Option EdgeHandle} {found : Template × Edge}
    (known : before.edgeNamed? edge = some found) :
    ∃ present, edge = some present ∧ before.KnowsEdge present := by
  obtain ⟨present, rfl, _⟩ := Option.bind_eq_some_iff.mp known
  exact ⟨present, rfl, Builder.knowsEdge_iff.mpr ⟨found, known⟩⟩

/-- A location is only looked up in the edge's own template, which is the one that the edge's handle
names. -/
theorem answers_setEdgeEnd (sound : before.network.Sound) (which : EdgeEnd) (edge : Option EdgeHandle)
    (location : Option LocationHandle) :
    Answers before (.setEdgeEnd which edge location) (step (.setEdgeEnd which edge location) before) := by
  have performed : (perform (.setEdgeEnd which edge location) before).outcome = _ :=
    outcome_bind_pure _ _ _
  rw [Build.outcome_setEdgeEnd] at performed
  cases edgeKnown : before.edgeNamed? edge with
  | none =>
    rw [edgeKnown] at performed
    refine .of_false performed ?_ id (.inl (not_knowsEdge edgeKnown))
    rintro ⟨present, _, given, knows, _⟩
    exact not_knowsEdge edgeKnown ⟨present, given, knows⟩
  | some found =>
    obtain ⟨host, present⟩ := found
    rw [edgeKnown] at performed
    cases location with
    | none =>
      refine .of_false performed ?_ id (.inr rfl)
      rintro ⟨_, _, _, _, given, _⟩
      cases given
    | some named =>
      obtain ⟨handle, rfl, knows⟩ := knowsEdge_of_edgeNamed? edgeKnown
      obtain ⟨same, ownerKnown⟩ := Builder.owner?_of_edgeNamed? sound edgeKnown
      have given : ¬((¬∃ present, some handle = some present ∧ before.KnowsEdge present) ∨
          some named = none) := by simp [knows]
      simp only [ownerKnown] at performed
      obtain ⟨own, knowsLocation, location, resolved⟩ | ⟨unknown, error, notAbsent, numbers, resolved⟩ :=
        Builder.resolveLocation_known (Builder.found_of_edgeNamed? edgeKnown).1 named
      · simp only [resolved, Except.bind] at performed
        refine .of_answer performed (by simp) ?_ id given
        rintro ⟨_, _, ⟨rfl⟩, _, ⟨rfl⟩, foreign⟩
        exact foreign ⟨own.trans same, knowsLocation⟩
      · simp only [resolved, Except.bind] at performed
        refine .of_error performed ⟨handle, named, rfl, knows, rfl, fun both => unknown ?_⟩
          (by simp [numbers, shown]) (by simp [LacksLocation, notAbsent]) given
        exact ⟨both.1.trans same.symm, both.2⟩

/-- A command that changes one edge needs this edge and nothing else. -/
theorem Answers.of_edge {work : Build Bool} {edge : Option EdgeHandle}
    {after : Template → Edge → Builder}
    (outcome : (work before).outcome =
      match before.edgeNamed? edge with
      | some (owner, present) => .ok (true, after owner present)
      | none => .ok (false, before))
    (performs : command.perform = work >>= fun result => pure (.applied result))
    (accepted : ¬command.Refused before) (complete : ¬command.LacksLocation before)
    (passed : command.PassedOver before ↔ ¬∃ present, edge = some present ∧ before.KnowsEdge present) :
    Answers before command (command.step before) := by
  have performed := outcome_bind_pure work Answer.applied before
  rw [← performs, outcome] at performed
  cases known : before.edgeNamed? edge with
  | none =>
    rw [known] at performed
    exact .of_false performed accepted complete (passed.mpr (not_knowsEdge known))
  | some found =>
    rw [known] at performed
    exact .of_answer performed (by simp) accepted complete fun unknown =>
      passed.mp unknown (knowsEdge_of_edgeNamed? known)

theorem answers_finalize : Answers before .finalize (step .finalize before) := by
  have performed : (perform .finalize before).outcome = _ := outcome_bind_pure _ _ _
  rw [Build.outcome_finalize] at performed
  by_cases complete : before.network.problems = []
  · simp only [complete, List.isEmpty_nil, if_true] at performed
    exact .of_answer performed (by simp) (fun refused => refused complete) id id
  · simp only [List.isEmpty_iff, complete, if_false] at performed
    exact .of_error performed complete rfl (by simp [LacksLocation]) id

/-- In a sound network every command fails or answers false exactly when its handles say so, and changes
nothing then. -/
theorem answers_step (sound : before.network.Sound) (command : Command) :
    Answers before command (command.step before) := by
  cases command with
  | newAutomaton name => exact .of_answer rfl (by simp) id id id
  | reset => exact .of_answer rfl (by simp) id id id
  | finalize => exact answers_finalize
  | addGlobalDeclaration text => exact .of_answer rfl (by simp) id id id
  | addSystemDeclaration text => exact .of_answer rfl (by simp) id id id
  | addLocalDeclaration handle text =>
    exact .of_owner (Build.outcome_addLocalDeclaration handle text before) rfl (by simp) .rfl rfl id id
  | newTemplate name => exact .of_answer rfl (by simp) id id id
  | newLocation stem handle =>
    exact .of_owner (Build.outcome_newLocation stem handle before) rfl (by simp) .rfl rfl id id
  | setInitialLocation location handle => exact answers_setInitialLocation location handle
  | setLocationComment location comment => exact answers_setLocationComment location comment
  | newEdge handle =>
    exact .of_owner (Build.outcome_newEdge handle before) rfl (by simp) .rfl rfl id id
  | setEdgeEnd which edge location => exact answers_setEdgeEnd sound which edge location
  | setEdgeGuard edge text =>
    exact .of_edge (Build.outcome_setEdgeGuard edge text before) rfl id id .rfl
  | addEdgeUpdate edge text =>
    exact .of_edge (Build.outcome_addEdgeUpdate edge text before) rfl id id .rfl

end Answers

/-! ## Runs without the commands that have no effect -/

/-- Whether a command neither failed nor answered false. -/
def Performed.isEffective (performed : Performed) : Bool :=
  match performed.answer with
  | .error _ | .ok (.applied false) => false
  | _ => true

/-- What the commands of a run came to, one after another. -/
def performedAll (builder : Builder) : List Command → List Performed
  | [] => []
  | command :: rest =>
    let performed := command.step builder
    performed :: performedAll performed.builder rest

/-- The commands of a run that neither fail nor answer false. -/
def effective (builder : Builder) : List Command → List Command
  | [] => []
  | command :: rest =>
    let performed := command.step builder
    if performed.isEffective then command :: effective performed.builder rest
    else effective performed.builder rest

/-- A command without effect leaves the builder as it was. -/
theorem builder_step_of_ineffective {before : Builder} (sound : before.network.Sound)
    {command : Command} (ineffective : (command.step before).isEffective = false) :
    (command.step before).builder = before := by
  have answers := answers_step sound command
  apply answers.unchanged
  rw [← answers.refused, ← answers.passedOver]
  unfold Performed.isEffective at ineffective
  split at ineffective
  · rename_i error failed
    exact .inl ⟨error, failed⟩
  · rename_i answered
    exact .inr answered
  · cases ineffective

/-- A run comes to the same without the commands that have no effect. -/
theorem effective_run {builder : Builder} (sound : builder.network.Sound) (commands : List Command) :
    runAll builder (effective builder commands) = runAll builder commands ∧
      performedAll builder (effective builder commands) =
        (performedAll builder commands).filter Performed.isEffective := by
  induction commands generalizing builder with
  | nil => exact ⟨rfl, rfl⟩
  | cons command rest inductionHypothesis =>
    have kept := sound_of_effect builder command _ sound (effect_step command builder)
    obtain ⟨sameBuilder, samePerformed⟩ := inductionHypothesis kept
    cases takes : (command.step builder).isEffective with
    | true =>
      simp only [effective, performedAll, takes, if_true, List.filter_cons_of_pos]
      exact ⟨sameBuilder, congrArg _ samePerformed⟩
    | false =>
      have unchanged := builder_step_of_ineffective sound takes
      rw [unchanged] at sameBuilder samePerformed
      have skipped : effective builder (command :: rest) = effective builder rest := by
        simp [effective, takes, unchanged]
      have alike : runAll builder (command :: rest) = runAll builder rest := by
        show runAll (command.step builder).builder rest = _
        rw [unchanged]
      rw [skipped, alike]
      refine ⟨sameBuilder, ?_⟩
      rw [samePerformed, performedAll, List.filter_cons_of_neg (by simp [takes]), unchanged]

end Command

end TraceAutomata
