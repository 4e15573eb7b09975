import TraceAutomata.Config
import TraceAutomata.Proofs.Document.Within

/-!
# Checking settings

What the checks of a mapping of settings accept and how they end otherwise. The keys pass when all of them name
settings (`checkKeys_eq_ok_iff`), the values when each one fits its setting (`checkTypes_eq_ok_iff`), and the first
value that does not fit decides how the check ends (`checkTypes_of_misfit`).

A check that does not pass refuses the settings, unless what it would have to show cannot be put in order or
shown. `Unreportable` lists these cases; `ofEntries_cases` says that there are no others.
-/

namespace TraceAutomata

namespace Value

variable [Runtime]

/-- Null can be shown, whatever label it has. -/
theorem printable_of_content_null : ∀ {value : Value}, value.content = .null → value.Printable
  | .null, _ => printable_null
  | .shared _ value, isNull =>
    have inner : value.Printable := printable_of_content_null isNull
    ⟨shortIntegers_shared_iff.mpr inner.short, inner.shallow⟩

end Value

namespace Config

variable {entries before after : List (Value × Value)} {key value : Value} {setting : Setting}
  {fault : ConfigFault}

/-! ## Values that fit -/

/-- A value may be given for a setting. -/
def Fits : Setting → Value → Prop
  | .writeDump, value => ∃ given, value.content = .boolean given
  | setting, value => (∃ given, value.content = .text given) ∨
      setting.mayBeNull = true ∧ value.content = .null

theorem fits_iff (other : setting ≠ .writeDump) : Fits setting value ↔
    (∃ given, value.content = .text given) ∨ setting.mayBeNull = true ∧ value.content = .null := by
  cases setting with
  | writeDump => contradiction
  | _ => exact Iff.rfl

/-- All values of known keys may be given. -/
def Fitting (entries : List (Value × Value)) : Prop :=
  ∀ entry ∈ entries, ∀ setting, Setting.ofValue? entry.1 = some setting → Fits setting entry.2

/-- The first value that may not be given, with its setting. -/
structure Misfit (entries : List (Value × Value)) (setting : Setting) (value : Value) : Prop where
  first : ∃ before key after, entries = before ++ (key, value) :: after ∧ Fitting before ∧
    Setting.ofValue? key = some setting
  misfit : ¬Fits setting value

theorem fitting_cons_iff {entry : Value × Value} : Fitting (entry :: entries) ↔
    (∀ setting, Setting.ofValue? entry.1 = some setting → Fits setting entry.2) ∧ Fitting entries :=
  List.forall_mem_cons

/-- All values fit, or one is the first that does not. -/
theorem fitting_or_misfit (entries : List (Value × Value)) :
    Fitting entries ∨ ∃ setting value, Misfit entries setting value := by
  induction entries with
  | nil => exact .inl nofun
  | cons entry rest inductionHypothesis =>
    by_cases own : ∀ setting, Setting.ofValue? entry.1 = some setting → Fits setting entry.2
    · obtain others | ⟨setting, value, ⟨before, key, after, rfl, fitting, named⟩, misfit⟩ :=
        inductionHypothesis
      · exact .inl (fitting_cons_iff.mpr ⟨own, others⟩)
      · have further : Fitting (entry :: before) := fitting_cons_iff.mpr ⟨own, fitting⟩
        exact .inr ⟨setting, value, ⟨entry :: before, key, after, rfl, further, named⟩, misfit⟩
    · push Not at own
      obtain ⟨setting, named, misfit⟩ := own
      exact .inr ⟨setting, entry.2, ⟨[], entry.1, rest, rfl, nofun, named⟩, misfit⟩

/-! ## Keys -/

section Checking

variable [Runtime]

/-- The keys of some entries that name no settings, in order. -/
def unknownKeys (entries : List (Value × Value)) : List Value :=
  (entries.map Prod.fst).filter fun key => (Setting.ofValue? key).isNone

/-- The keys pass when all of them name settings. -/
theorem checkKeys_eq_ok_iff : checkKeys entries = .ok () ↔ unknownKeys entries = [] := by
  rw [checkKeys, ← unknownKeys]
  cases unknownKeys entries with
  | nil => simp
  | cons first rest =>
    simp only [reduceCtorEq, iff_false]
    split
    · simp
    · split <;> simp

theorem checkKeys_of_no_order (incomparable : Value.sortKeys? (unknownKeys entries) = none) :
    checkKeys entries = .error .incomparableKeys := by
  rw [checkKeys, ← unknownKeys]
  cases unknown : unknownKeys entries with
  | nil =>
    rw [unknown] at incomparable
    cases incomparable
  | cons first rest =>
    rw [unknown] at incomparable
    simp only [incomparable]

section Ordered

variable {ordered : List Value} (present : unknownKeys entries ≠ [])
  (sorted : Value.sortKeys? (unknownKeys entries) = some ordered)
include present sorted

theorem checkKeys_of_shown {shown : List String} (written : ordered.mapM Value.shownText = .ok shown) :
    checkKeys entries = .error (.refused (.unknownKeys shown)) := by
  rw [checkKeys, ← unknownKeys]
  cases unknown : unknownKeys entries with
  | nil => exact absurd unknown present
  | cons first rest =>
    rw [unknown] at sorted
    simp only [sorted, written]

theorem checkKeys_of_unshown {reason : ValueFault} (unshown : ordered.mapM Value.shownText = .error reason) :
    checkKeys entries = .error (.value reason) := by
  rw [checkKeys, ← unknownKeys]
  cases unknown : unknownKeys entries with
  | nil => exact absurd unknown present
  | cons first rest =>
    rw [unknown] at sorted
    simp only [sorted, unshown]

end Ordered

/-! ## Checking values -/

theorem checkType_of_fits (fits : Fits setting value) : checkType setting value = .ok () := by
  by_cases dump : setting = .writeDump
  · subst dump
    obtain ⟨given, boolean⟩ := fits
    simp [checkType, boolean]
  · obtain ⟨given, text⟩ | ⟨nullable, null⟩ := (fits_iff dump).mp fits
    · cases setting <;> simp_all [checkType]
    · cases setting <;> simp_all [checkType]

/-- A value that does not fit is refused, and what is shown of it has the faults of the value. -/
theorem checkType_of_misfit (misfit : ¬Fits setting value) : ∃ error shown,
    checkType setting value = refuse error shown ∧ shown.showingFault? = value.showingFault? := by
  unfold checkType
  split
  · rename_i given boolean
    exact absurd ⟨given, boolean⟩ misfit
  · exact ⟨_, value, rfl, rfl⟩
  · rename_i given other text
    exact absurd ((fits_iff other).mpr (.inl ⟨given, text⟩)) misfit
  · rename_i other null
    split
    · rename_i nullable
      exact absurd ((fits_iff other).mpr (.inr ⟨nullable, null⟩)) misfit
    · refine ⟨_, .null, rfl, ?_⟩
      rw [Value.printable_null.showingFault?_eq_none,
        (Value.printable_of_content_null null).showingFault?_eq_none]
  · exact ⟨_, value, rfl, rfl⟩

theorem checkType_eq_ok_iff : checkType setting value = .ok () ↔ Fits setting value := by
  constructor
  · intro passed
    by_contra misfit
    obtain ⟨error, shown, refused, -⟩ := checkType_of_misfit misfit
    rw [refused, refuse] at passed
    split at passed <;> cases passed
  · exact checkType_of_fits

/-- Values that fit do not end the check. -/
theorem checkTypes_append (fitting : Fitting before) : checkTypes (before ++ after) = checkTypes after := by
  induction before with
  | nil => rfl
  | cons entry rest inductionHypothesis =>
    obtain ⟨own, others⟩ := fitting_cons_iff.mp fitting
    rw [List.cons_append, checkTypes]
    split
    · exact inductionHypothesis others
    · rename_i setting named
      rw [checkType_of_fits (own setting named)]
      exact inductionHypothesis others

theorem checkTypes_of_fitting (fitting : Fitting entries) : checkTypes entries = .ok () := by
  have whole : checkTypes (entries ++ []) = checkTypes [] := checkTypes_append fitting
  rwa [List.append_nil] at whole

/-- The first value that does not fit ends the check. -/
theorem checkTypes_of_misfit (misfit : Misfit entries setting value) : ∃ fault,
    checkType setting value = .error fault ∧ checkTypes entries = .error fault := by
  obtain ⟨⟨before, key, after, rfl, fitting, named⟩, unfit⟩ := misfit
  cases checked : checkType setting value with
  | ok passed => exact absurd (checkType_eq_ok_iff.mp checked) unfit
  | error fault =>
    refine ⟨fault, rfl, ?_⟩
    rw [checkTypes_append fitting, checkTypes, named]
    simp only [checked]
    rfl

/-- The values pass when each fits its setting. -/
theorem checkTypes_eq_ok_iff : checkTypes entries = .ok () ↔ Fitting entries := by
  constructor
  · intro passed
    obtain fitting | ⟨setting, value, misfit⟩ := fitting_or_misfit entries
    · exact fitting
    · obtain ⟨fault, -, failed⟩ := checkTypes_of_misfit misfit
      rw [failed] at passed
      cases passed
  · exact checkTypes_of_fitting

/-! ## What is not refused -/

/-- The faults that keep a check from refusing the settings that it does not accept. -/
inductive Unreportable (entries : List (Value × Value)) : ConfigFault → Prop
  /-- The keys that name no settings cannot be put in order. -/
  | noOrder (incomparable : Value.sortKeys? (unknownKeys entries) = none) :
    Unreportable entries .incomparableKeys
  /-- One of them cannot be shown. -/
  | unshownKey {ordered : List Value} {reason : ValueFault} (present : unknownKeys entries ≠ [])
      (sorted : Value.sortKeys? (unknownKeys entries) = some ordered)
      (unshown : ordered.mapM Value.shownText = .error reason) :
    Unreportable entries (.value reason)
  /-- The first value that does not fit cannot be shown. -/
  | unshownValue {setting : Setting} {value : Value} {reason : ValueFault} (known : unknownKeys entries = [])
      (misfit : Misfit entries setting value) (unshown : value.showingFault? = some reason) :
    Unreportable entries (.value reason)

theorem refuse_of_unshown {error : String → ConfigError} {shown : Value} {reason : ValueFault}
    (unshown : shown.showingFault? = some reason) : refuse error shown = .error (.value reason) := by
  rw [refuse, Value.shownText, unshown]

theorem refuse_of_shown {error : String → ConfigError} {shown : Value} (fits : shown.showingFault? = none) :
    refuse error shown = .error (.refused (error shown.shown)) := by
  rw [refuse, Value.shownText, fits]

theorem ofEntries_of_checkKeys (failed : checkKeys entries = .error fault) : ofEntries entries = .error fault := by
  rw [ofEntries, failed]
  rfl

theorem ofEntries_of_checkTypes (known : unknownKeys entries = []) (failed : checkTypes entries = .error fault) :
    ofEntries entries = .error fault := by
  rw [ofEntries, checkKeys_eq_ok_iff.mpr known, failed]
  rfl

/-- When all keys are known and all values fit, only the level is still to be checked. -/
theorem ofEntries_of_fitting (known : unknownKeys entries = []) (fitting : Fitting entries) :
    ofEntries entries = checkLevel (assignAll {} entries).logLevel >>= fun level =>
      .ok { assignAll {} entries with logLevel := level } := by
  simp only [ofEntries, checkKeys_eq_ok_iff.mpr known, checkTypes_of_fitting fitting, bind, Except.bind, pure,
    Except.pure]

/-- Such a fault is what comes of the check. -/
theorem ofEntries_of_unreportable (unreportable : Unreportable entries fault) :
    ofEntries entries = .error fault := by
  cases unreportable with
  | noOrder incomparable => exact ofEntries_of_checkKeys (checkKeys_of_no_order incomparable)
  | unshownKey present sorted unshown => exact ofEntries_of_checkKeys (checkKeys_of_unshown present sorted unshown)
  | unshownValue known misfit unshown =>
    obtain ⟨fault, checked, failed⟩ := checkTypes_of_misfit misfit
    obtain ⟨error, shown, refused, same⟩ := checkType_of_misfit misfit.misfit
    rw [refused, refuse_of_unshown (same.trans unshown)] at checked
    obtain rfl := Except.error.inj checked
    exact ofEntries_of_checkTypes known failed

/-- A mapping gives settings or is refused, unless there is a fault that cannot be reported. -/
theorem ofEntries_cases (entries : List (Value × Value)) :
    (∃ config, ofEntries entries = .ok config) ∨ (∃ error, ofEntries entries = .error (.refused error)) ∨
      ∃ fault, Unreportable entries fault := by
  by_cases known : unknownKeys entries = []
  · obtain fitting | ⟨setting, value, misfit⟩ := fitting_or_misfit entries
    · rw [ofEntries_of_fitting known fitting, checkLevel]
      split
      · exact .inl ⟨_, rfl⟩
      · exact .inr (.inl ⟨_, rfl⟩)
    · obtain ⟨fault, checked, failed⟩ := checkTypes_of_misfit misfit
      obtain ⟨error, shown, refused, same⟩ := checkType_of_misfit misfit.misfit
      cases unshown : value.showingFault? with
      | some reason => exact .inr (.inr ⟨_, .unshownValue known misfit unshown⟩)
      | none =>
        rw [refused, refuse_of_shown (same.trans unshown)] at checked
        obtain rfl : ConfigFault.refused (error shown.shown) = fault := Except.error.inj checked
        exact .inr (.inl ⟨_, ofEntries_of_checkTypes known failed⟩)
  · cases sorted : Value.sortKeys? (unknownKeys entries) with
    | none => exact .inr (.inr ⟨_, .noOrder sorted⟩)
    | some ordered =>
      cases written : ordered.mapM Value.shownText with
      | ok shown => exact .inr (.inl ⟨_, ofEntries_of_checkKeys (checkKeys_of_shown known sorted written)⟩)
      | error reason => exact .inr (.inr ⟨_, .unshownKey known sorted written⟩)

end Checking

end Config

end TraceAutomata
