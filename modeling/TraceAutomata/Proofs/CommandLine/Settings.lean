import TraceAutomata.Proofs.CommandLine
import TraceAutomata.Proofs.CommandLine.Withheld
import TraceAutomata.Proofs.Config.Acceptance

/-!
# Settings of a run

Settings are checked once, when they are read. `settings_checked` says what that comes to for every value: which
values are accepted, what the settings then are, and that they need no check again, also not after a command line has
replaced some of them. Only nothing in the place of a value passes the check of a command line without being a value
of a setting, and a level that is nothing ends the run with a fault.
-/

namespace TraceAutomata

namespace Config

variable [Runtime]

/-- Settings that need no further check: the level is the name of a level, every setting is of its type, and given as
a value again the settings are read as they are. -/
structure Settled (config : Config) : Prop where
  level : HasLevel config
  typed : ∀ setting : Setting, setting.Takes (config.field setting)
  again : ofValue config.toValue = .ok config

theorem HasLevel.settled {config : Config} (leveled : HasLevel config) : Settled config where
  level := leveled
  typed := takes_field config
  again := ofValue_toValue leveled

end Config

namespace CommandLine

open Config

/-! ## What options give -/

/-- What is given, as a value. Nothing is an empty list. -/
def Given.toValue {α : Type} (ofGiven : α → Value) : Given α → Value
  | .value given => ofGiven given
  | .nothing => .list []

/-- The value that options give a setting. -/
def Options.value? (options : Options) : Setting → Option Value
  | .templateName => options.templateName.map (Given.toValue .text)
  | .writeDump => if options.dumpModel then some (.boolean true) else none
  | .logLevel => options.logLevel.map (Given.toValue fun level => .text level.name)
  | _ => none

/-- The value with all settings, those that options give replaced. -/
def replaced (config : Config) (options : Options) : Value :=
  .mapping (Setting.all.map fun setting =>
    (.text setting.key, (options.value? setting).getD (config.field setting)))

/-- The options give a value wherever they give anything. -/
def Options.Complete (options : Options) : Prop :=
  ∀ flag, ¬options.Withholds flag

variable {arguments : List String} {options : Options} {config : Config}

/-- A level that options give is one of the levels. -/
theorem hasLevel_merged (leveled : HasLevel config) (options : Options) :
    HasLevel (config.merged (overrides options)) := by
  obtain ⟨trace, output, path, template, dump, level⟩ := options
  rcases level with _ | ⟨level⟩ | _
  · exact leveled
  · exact ⟨level, rfl⟩
  · exact leveled

/-- What complete options give is what the settings hold afterwards. -/
theorem value?_of_complete (complete : options.Complete) (config : Config) (setting : Setting) :
    (options.value? setting).getD (config.field setting) = (config.merged (overrides options)).field setting := by
  obtain ⟨trace, output, path, template, dump, level⟩ := options
  cases setting with
  | templateName =>
    rcases template with _ | ⟨name⟩ | _
    · rfl
    · rfl
    · exact absurd rfl (complete .templateName)
  | writeDump => cases dump <;> rfl
  | logLevel =>
    rcases level with _ | ⟨level⟩ | _
    · rfl
    · rfl
    · exact absurd rfl (complete .logLevel)
  | _ => rfl

/-- Complete options replace settings with values that settings can hold. -/
theorem replaced_of_complete (complete : options.Complete) (config : Config) :
    replaced config options = (config.merged (overrides options)).toValue := by
  refine congrArg Value.mapping (List.map_congr_left fun setting _ => ?_)
  rw [value?_of_complete complete]

/-- An option whose value is withheld gives its setting an empty list. -/
theorem value?_of_withholds {flag : Flag} (withheld : options.Withholds flag) :
    ∃ setting, options.value? setting = some (.list []) := by
  cases flag with
  | templateName =>
    refine ⟨.templateName, ?_⟩
    rw [Options.value?, show options.templateName = some .nothing from withheld]
    rfl
  | logLevel =>
    refine ⟨.logLevel, ?_⟩
    rw [Options.value?, show options.logLevel = some .nothing from withheld]
    rfl
  | _ => exact withheld.elim

section Running

variable [Runtime]

/-- An empty list is no value of a setting. -/
theorem not_accepted_of_withholds {flag : Flag} (withheld : options.Withholds flag) (config other : Config) :
    ofValue (replaced config options) ≠ .ok other := by
  intro accepted
  obtain ⟨setting, nothing⟩ := value?_of_withholds withheld
  obtain ⟨entries, listed, acceptable, -⟩ := ofValue_eq_ok_iff.mp accepted
  cases listed with
  | nothing null => cases null
  | mapping shape =>
    obtain rfl := Value.mapping.inj shape
    have present : (Value.text setting.key, Value.list []) ∈ Setting.all.map fun setting =>
        (Value.text setting.key, (options.value? setting).getD (config.field setting)) := by
      refine List.mem_map.mpr ⟨setting, Setting.mem_all setting, ?_⟩
      rw [nothing]
      rfl
    obtain ⟨own, -, takes⟩ := acceptable.typed _ present
    cases takes

/-- A run whose level is nothing stops when the log is set up, and does nothing. -/
theorem run_of_nothing {files : FileSystem} (given : Options.ofArguments arguments = .ok options)
    (read : baseConfig options files = .ok config) (nothing : options.logLevel = some .nothing) :
    run arguments files = { files, exit := .error .noLevel } := by
  rw [run_of_options given, transform, read]
  simp only [nothing, beq_self_eq_true, if_true]

/-! ## Settings under a command line -/

/-- What becomes of accepted settings under the options of a command line. -/
structure Overridden (config : Config) (arguments : List String) (options : Options) : Prop where
  /-- Where they give values, the options replace settings with them, and the settings need no further check. -/
  complete : options.Complete →
    replaced config options = (config.merged (overrides options)).toValue ∧
      Settled (config.merged (overrides options))
  /-- Nothing in the place of a value comes of two hyphens alone attached to the name of an option, and with it
  there are no settings that would be accepted. -/
  incomplete : ∀ flag, options.Withholds flag →
    GivesNothing flag arguments ∧ ∀ other, ofValue (replaced config options) ≠ .ok other
  /-- A level that is nothing ends the run with a fault. -/
  noLevel : options.logLevel = some .nothing → ∀ files, baseConfig options files = .ok config →
    run arguments files = { files, exit := .error .noLevel }

/-- What the check of a value comes to. -/
structure Checked (value : Value) : Prop where
  /-- Accepted are null and the mappings whose keys name settings, with values of their types, and whose level in upper
  case names a level. -/
  accepted_iff : (∃ config, ofValue value = .ok config) ↔ ∃ entries, Lists value entries ∧ Acceptable entries
  /-- Every setting is the one that the value gives, a level in upper case, or its default. -/
  fields : ∀ config entries, ofValue value = .ok config → Lists value entries →
    ∀ setting, config.field setting = chosen entries setting
  /-- Accepted settings need no further check. -/
  settled : ∀ config, ofValue value = .ok config → Settled config
  /-- Nor do they under the options of a command line, unless these give nothing in the place of a value. -/
  overridden : ∀ config arguments options, ofValue value = .ok config →
    Options.ofArguments arguments = .ok options → Overridden config arguments options

/-- Of every value, and under the options of every command line. -/
theorem settings_checked (value : Value) : Checked value where
  accepted_iff := exists_ofValue_iff
  fields := by
    intro config entries read listed
    obtain ⟨own, ownListed, -, same⟩ := ofValue_eq_ok_iff.mp read
    rwa [listed.unique ownListed]
  settled := fun config read => (hasLevel_of_ofValue read).settled
  overridden := fun config arguments options read given =>
    { complete := fun complete =>
        ⟨replaced_of_complete complete config, (hasLevel_merged (hasLevel_of_ofValue read) options).settled⟩
      incomplete := fun flag withheld =>
        ⟨givesNothing_of_withholds given withheld, not_accepted_of_withholds withheld config⟩
      noLevel := fun nothing files base => run_of_nothing given base nothing }

end Running

section Standard

open scoped TraceAutomata.Runtime

/-- Two hyphens alone attached to the name of the level: an empty list replaces the level, and the run ends with a
fault. -/
theorem level_withheld :
    let statements := "statements:\n  - \x7bkind: assignment, expression: 'light := 1'\x7d\n"
    let files : FileSystem := ⟨[(["lamp.yaml".toList], .file (Text.encodeUtf8 statements))], []⟩
    let options : Options := { trace := "lamp.yaml", logLevel := some .nothing }
    Options.ofArguments ["lamp.yaml", "--log-level=--"] = .ok options ∧
      options.value? .logLevel = some (.list []) ∧
      ofValue (replaced {} options) = .error (.refused (.notText .logLevel "[]")) ∧
      (run ["lamp.yaml", "--log-level=--"] files).exit = .error .noLevel := by
  refine ⟨?_, rfl, ?_, ?_⟩ <;> decide +kernel

end Standard

end CommandLine

end TraceAutomata
