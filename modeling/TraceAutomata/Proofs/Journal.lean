import TraceAutomata.Journal

/-!
# Laws of journaled computations

How a sequence of computations ends. It succeeds when each part does (`succeeds_bind_iff`), and its errors are
those of its parts: `ErrorsIn` says that whatever error comes up satisfies some condition.
-/

namespace TraceAutomata

/-- What a successful computation goes on with has succeeded. -/
theorem bind_eq_ok {ε α β : Type} {first : Except ε α} {next : α → Except ε β} {result : β}
    (succeeded : (first >>= next) = .ok result) :
    ∃ middle, first = .ok middle ∧ next middle = .ok result := by
  cases first with
  | error fault => cases succeeded
  | ok middle => exact ⟨middle, rfl, succeeded⟩

namespace Journaled

variable {ε ε' α β : Type} {first : Journaled ε α}

@[simp] theorem pure_then (result : α) (next : α → Journaled ε β) : (pure result >>= next) = next result :=
  rfl

/-- Going on after a result. -/
theorem ok_bind (events : List Event) (result : α) (next : α → Journaled ε β) :
    ((⟨events, .ok result⟩ : Journaled ε α) >>= next) =
      ⟨events ++ (next result).events, (next result).outcome⟩ :=
  rfl

/-! ## Success -/

/-- The computation ends with a result. -/
def Succeeds (journaled : Journaled ε α) : Prop :=
  ∃ result, journaled.outcome = .ok result

@[simp] theorem succeeds_pure (result : α) : (pure result : Journaled ε α).Succeeds :=
  ⟨result, rfl⟩

@[simp] theorem succeeds_report (event : Event) : (report event : Journaled ε Unit).Succeeds :=
  ⟨(), rfl⟩

@[simp] theorem not_succeeds_fail (error : ε) : ¬(fail error : Journaled ε α).Succeeds := by
  rintro ⟨_, failed⟩
  cases failed

/-- A sequence ends with a result when both its parts do. -/
theorem succeeds_bind_iff {next : α → Journaled ε β} :
    (first >>= next).Succeeds ↔ ∃ result, first.outcome = .ok result ∧ (next result).Succeeds := by
  show (first.andThen next).Succeeds ↔ _
  unfold andThen Succeeds
  cases first.outcome <;> simp

/-- A second part that does not depend on the result of the first. -/
@[simp] theorem succeeds_bind_const_iff {next : Journaled ε β} :
    (first >>= fun _ => next).Succeeds ↔ first.Succeeds ∧ next.Succeeds := by
  rw [succeeds_bind_iff, exists_and_right]
  rfl

/-- A result may be put into another form. -/
@[simp] theorem succeeds_bind_pure_iff {change : α → β} :
    (first >>= fun result => pure (change result)).Succeeds ↔ first.Succeeds := by
  simp only [succeeds_bind_iff, succeeds_pure, and_true]
  rfl

@[simp] theorem succeeds_mapError_iff {change : ε → ε'} :
    (first.mapError change).Succeeds ↔ first.Succeeds := by
  unfold Succeeds mapError
  cases first.outcome with
  | error error =>
    constructor
    · rintro ⟨_, ⟨⟩⟩
    · rintro ⟨_, ⟨⟩⟩
  | ok result => exact iff_of_true ⟨result, rfl⟩ ⟨result, rfl⟩

/-! ## Errors -/

/-- Every error that the computation ends with satisfies a condition. -/
def ErrorsIn (allowed : ε → Prop) (journaled : Journaled ε α) : Prop :=
  ∀ error, journaled.outcome = .error error → allowed error

variable {allowed : ε → Prop}

theorem errorsIn_pure (result : α) : (pure result : Journaled ε α).ErrorsIn allowed := by
  rintro error ⟨⟩

theorem errorsIn_report (event : Event) : (report event : Journaled ε Unit).ErrorsIn allowed := by
  rintro error ⟨⟩

theorem errorsIn_fail {error : ε} (within : allowed error) :
    (fail error : Journaled ε α).ErrorsIn allowed := by
  rintro _ ⟨⟩
  exact within

/-- The errors of a sequence are those of its parts. -/
theorem ErrorsIn.bind {next : α → Journaled ε β} (own : first.ErrorsIn allowed)
    (later : ∀ result, first.outcome = .ok result → (next result).ErrorsIn allowed) :
    (first >>= next).ErrorsIn allowed := by
  intro error failed
  change (first.andThen next).outcome = .error error at failed
  unfold andThen at failed
  cases ended : first.outcome with
  | error earlier =>
    rw [ended] at failed
    cases failed
    exact own error ended
  | ok result =>
    rw [ended] at failed
    exact later result ended error failed

end Journaled

end TraceAutomata
