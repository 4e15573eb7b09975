import TraceAutomata.Command

/-!
# Commands that fail change nothing

Nothing is undone when a command fails, so what it changed before would stay changed. Every command first
looks its handles up, which may fail and changes nothing (`ReadOnly`), and then makes its changes, which
cannot fail (`Infallible`). `atomic_perform` says that a command which fails has therefore left the builder
as it found it.
-/

namespace TraceAutomata

namespace Build

variable {α β : Type}

/-- The builder is afterwards what it was before. -/
def ReadOnly (work : Build α) : Prop :=
  ∀ builder, (work builder).builder = builder

/-- There is always an answer. -/
def Infallible (work : Build α) : Prop :=
  ∀ builder, ∃ answer, (work builder).answer = .ok answer

/-- Where there is no answer, the builder is afterwards what it was before. -/
def Atomic (work : Build α) : Prop :=
  ∀ builder error, (work builder).answer = .error error → (work builder).builder = builder

/-! ## Sequences -/

section Sequences

variable {first : Build α} {next : α → Build β} {builder : Builder}

/-- A sequence whose first command fails ends there. -/
theorem bind_of_error {error : BuildError} (failed : (first builder).answer = .error error) :
    ((first >>= next) builder).answer = .error error ∧
      ((first >>= next) builder).builder = (first builder).builder := by
  show (andThen first next builder).answer = _ ∧ (andThen first next builder).builder = _
  simp [andThen, failed]

/-- A sequence whose first command answers goes on with the answer and the builder it left. -/
theorem bind_of_ok {answer : α} (answered : (first builder).answer = .ok answer) :
    ((first >>= next) builder).answer = (next answer (first builder).builder).answer ∧
      ((first >>= next) builder).builder = (next answer (first builder).builder).builder := by
  show (andThen first next builder).answer = _ ∧ (andThen first next builder).builder = _
  simp [andThen, answered]

theorem ReadOnly.bind (reads : first.ReadOnly) (readsOn : ∀ answer, (next answer).ReadOnly) :
    (first >>= next).ReadOnly := by
  intro builder
  cases answered : (first builder).answer with
  | error error => rw [(bind_of_error answered).2, reads]
  | ok answer => rw [(bind_of_ok answered).2, readsOn, reads]

theorem Infallible.bind (answers : first.Infallible) (answersOn : ∀ answer, (next answer).Infallible) :
    (first >>= next).Infallible := by
  intro builder
  obtain ⟨answer, answered⟩ := answers builder
  rw [(bind_of_ok answered).1]
  exact answersOn answer _

/-- What only reads can stand in front of what is atomic. -/
theorem ReadOnly.atomic_bind (reads : first.ReadOnly) (atomic : ∀ answer, (next answer).Atomic) :
    (first >>= next).Atomic := by
  intro builder error failed
  cases answered : (first builder).answer with
  | error early => rw [(bind_of_error answered).2, reads]
  | ok answer =>
    rw [(bind_of_ok answered).1, reads] at failed
    rw [(bind_of_ok answered).2, reads]
    exact atomic answer builder error failed

end Sequences

theorem Infallible.atomic {work : Build α} (answers : work.Infallible) : work.Atomic := by
  intro builder error failed
  obtain ⟨answer, answered⟩ := answers builder
  rw [answered] at failed
  cases failed

theorem ReadOnly.atomic {work : Build α} (reads : work.ReadOnly) : work.Atomic :=
  fun builder _ _ => reads builder

/-- An answer that is put together from the answer of a command changes nothing more. -/
theorem Atomic.map {work : Build α} (atomic : work.Atomic) (change : α → β) :
    (work >>= fun answer => pure (change answer)).Atomic := by
  intro builder error failed
  cases answered : (work builder).answer with
  | error early => rw [(bind_of_error answered).2, atomic builder early answered]
  | ok answer =>
    rw [(bind_of_ok answered).1] at failed
    cases failed

/-! ## Single steps -/

theorem readOnly_pure (answer : α) : (pure answer : Build α).ReadOnly := fun _ => rfl

theorem readOnly_get : (get : Build Builder).ReadOnly := fun _ => rfl

theorem readOnly_report (event : Event) : (report event).ReadOnly := fun _ => rfl

theorem readOnly_fail (error : BuildError) : (fail error : Build α).ReadOnly := fun _ => rfl

theorem infallible_pure (answer : α) : (pure answer : Build α).Infallible := fun _ => ⟨_, rfl⟩

theorem infallible_get : (get : Build Builder).Infallible := fun _ => ⟨_, rfl⟩

theorem infallible_set (next : Builder) : (set next : Build Unit).Infallible := fun _ => ⟨_, rfl⟩

theorem infallible_modify (change : Builder → Builder) : (modify change : Build Unit).Infallible :=
  fun _ => ⟨_, rfl⟩

theorem infallible_report (event : Event) : (report event).Infallible := fun _ => ⟨_, rfl⟩

/-! ## Looking handles up changes nothing -/

theorem readOnly_resolveTemplate (handle : Option TemplateHandle) : (resolveTemplate handle).ReadOnly := by
  refine readOnly_get.bind fun builder => ?_
  split
  · exact readOnly_pure _
  · exact readOnly_fail _

theorem readOnly_resolveLocation (handle : LocationHandle) (owner : Template) :
    (resolveLocation handle owner).ReadOnly := by
  unfold resolveLocation
  split
  · split
    · exact readOnly_pure _
    · exact readOnly_fail _
  · exact readOnly_fail _

theorem readOnly_resolveEdge (handle : Option EdgeHandle) : (resolveEdge handle).ReadOnly := by
  cases handle with
  | none => exact (readOnly_report _).bind fun _ => readOnly_pure _
  | some named =>
    refine readOnly_get.bind fun builder => ?_
    dsimp only
    split
    · exact (readOnly_report _).bind fun _ => readOnly_pure _
    · exact readOnly_pure _

/-! ## Commands -/

theorem atomic_finalize : finalize.Atomic := by
  refine ReadOnly.atomic (readOnly_get.bind fun builder => ?_)
  dsimp only
  split
  · exact (readOnly_report _).bind fun _ => readOnly_pure _
  · exact readOnly_fail _

theorem atomic_addLocalDeclaration (handle : Option TemplateHandle) (text : String) :
    (addLocalDeclaration handle text).Atomic :=
  (readOnly_resolveTemplate handle).atomic_bind fun _ => (infallible_modify _).atomic

theorem infallible_newTemplate (name : String) : (newTemplate name).Infallible :=
  infallible_get.bind fun _ => (infallible_set _).bind fun _ => (infallible_modify _).bind fun _ =>
    (infallible_report _).bind fun _ => infallible_pure _

theorem atomic_newLocation (stem : String) (handle : Option TemplateHandle) :
    (newLocation stem handle).Atomic :=
  (readOnly_resolveTemplate handle).atomic_bind fun _ =>
    (infallible_get.bind fun _ => (infallible_set _).bind fun _ => (infallible_modify _).bind fun _ =>
      (infallible_report _).bind fun _ => infallible_pure _).atomic

theorem atomic_setInitialLocation (location : Option LocationHandle)
    (handle : Option TemplateHandle) : (setInitialLocation location handle).Atomic := by
  refine (readOnly_resolveTemplate handle).atomic_bind fun owner => ?_
  cases location with
  | none => exact (readOnly_fail _).atomic
  | some named =>
    exact (readOnly_resolveLocation named owner).atomic_bind fun _ => (infallible_modify _).atomic

theorem atomic_setLocationComment (location : Option LocationHandle) (comment : String) :
    (setLocationComment location comment).Atomic := by
  cases location with
  | none => exact (readOnly_pure _).atomic
  | some named =>
    exact (readOnly_resolveTemplate _).atomic_bind fun owner =>
      (readOnly_resolveLocation named owner).atomic_bind fun _ =>
        ((infallible_modify _).bind fun _ => infallible_pure _).atomic

theorem atomic_newEdge (handle : Option TemplateHandle) : (newEdge handle).Atomic :=
  (readOnly_resolveTemplate handle).atomic_bind fun _ =>
    (infallible_get.bind fun _ => (infallible_set _).bind fun _ => (infallible_modify _).bind fun _ =>
      infallible_pure _).atomic

theorem atomic_setEdgeEnd (which : EdgeEnd) (edge : Option EdgeHandle)
    (location : Option LocationHandle) : (setEdgeEnd which edge location).Atomic := by
  refine (readOnly_resolveEdge edge).atomic_bind fun found => ?_
  split
  · rename_i named
    exact (readOnly_resolveTemplate _).atomic_bind fun owner =>
      (readOnly_resolveLocation named owner).atomic_bind fun _ =>
        ((infallible_modify _).bind fun _ => infallible_pure _).atomic
  · exact (readOnly_pure _).atomic

theorem atomic_setEdgeGuard (edge : Option EdgeHandle) (text : String) :
    (setEdgeGuard edge text).Atomic := by
  refine (readOnly_resolveEdge edge).atomic_bind fun found => ?_
  cases found with
  | none => exact (readOnly_pure _).atomic
  | some found => exact ((infallible_modify _).bind fun _ => infallible_pure _).atomic

theorem atomic_addEdgeUpdate (edge : Option EdgeHandle) (text : String) :
    (addEdgeUpdate edge text).Atomic := by
  refine (readOnly_resolveEdge edge).atomic_bind fun found => ?_
  cases found with
  | none => exact (readOnly_pure _).atomic
  | some found => exact ((infallible_modify _).bind fun _ => infallible_pure _).atomic

end Build

/-- A command that fails leaves the builder as it found it. -/
theorem Command.atomic_perform (command : Command) : command.perform.Atomic := by
  cases command with
  | newAutomaton name =>
    exact (((Build.infallible_report _).bind fun _ => Build.infallible_set _).atomic).map _
  | reset => exact (((Build.infallible_report _).bind fun _ => Build.infallible_set _).atomic).map _
  | finalize => exact Build.atomic_finalize.map _
  | addGlobalDeclaration text => exact (Build.infallible_modify _).atomic.map _
  | addSystemDeclaration text => exact (Build.infallible_modify _).atomic.map _
  | addLocalDeclaration handle text => exact (Build.atomic_addLocalDeclaration handle text).map _
  | newTemplate name => exact (Build.infallible_newTemplate name).atomic.map _
  | newLocation stem handle => exact (Build.atomic_newLocation stem handle).map _
  | setInitialLocation location handle =>
    exact (Build.atomic_setInitialLocation location handle).map _
  | setLocationComment location comment =>
    exact (Build.atomic_setLocationComment location comment).map _
  | newEdge handle => exact (Build.atomic_newEdge handle).map _
  | setEdgeEnd which edge location => exact (Build.atomic_setEdgeEnd which edge location).map _
  | setEdgeGuard edge text => exact (Build.atomic_setEdgeGuard edge text).map _
  | addEdgeUpdate edge text => exact (Build.atomic_addEdgeUpdate edge text).map _

end TraceAutomata
