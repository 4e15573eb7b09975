import Mathlib.Data.List.Induction
import TraceAutomata.Proofs.Config
import TraceAutomata.Proofs.Journal

/-!
# Settings that are accepted

Which values give settings, told without the order of the checks (`Acceptable`), and which settings they give
(`chosen`): `ofValue_eq_ok_iff` says that reading a value comes to exactly this.

The level of accepted settings is the name of a level, and that is all it takes for settings to be accepted as they
are when they are given as a value again (`ofValue_toValue`).
-/

namespace TraceAutomata

/-! ## Names -/

/-- In a list of everything, where names are different, the one with some name is found by it. -/
theorem find?_named_eq_some_iff {α : Type} {name : α → String} {all : List α} {wanted : String} {found : α}
    (complete : ∀ member, member ∈ all) (different : Function.Injective name) :
    all.find? (fun member => name member == wanted) = some found ↔ wanted = name found := by
  constructor
  · intro search
    have same := List.find?_some search
    exact (beq_iff_eq.mp same).symm
  · rintro rfl
    cases search : all.find? fun member => name member == name found with
    | none =>
      have unlike := List.find?_eq_none.mp search found (complete found)
      simp at unlike
    | some other =>
      have same := List.find?_some search
      rw [different (beq_iff_eq.mp same)]

theorem Level.ofName?_eq_some_iff {name : String} {level : Level} :
    ofName? name = some level ↔ name = level.name := by
  apply find?_named_eq_some_iff
  · intro level
    cases level <;> decide
  · intro left right
    cases left <;> cases right <;> decide

namespace Setting

variable {setting : Setting}

theorem mem_all (setting : Setting) : setting ∈ all := by
  cases setting <;> decide

theorem key_injective : Function.Injective key := by
  intro left right
  cases left <;> cases right <;> decide

theorem ofKey?_eq_some_iff {wanted : String} : ofKey? wanted = some setting ↔ wanted = setting.key :=
  find?_named_eq_some_iff mem_all key_injective

theorem ofValue?_eq_some_iff {value : Value} : ofValue? value = some setting ↔ value = .text setting.key := by
  cases value with
  | text wanted => rw [ofValue?, ofKey?_eq_some_iff, Value.text.injEq]
  | _ => simp [ofValue?]

/-- The values of the type that a setting has. -/
inductive Takes : Setting → Value → Prop
  | locationStem (given : String) : Takes .locationStem (.text given)
  | initialStem (given : String) : Takes .initialStem (.text given)
  | templateName (given : String) : Takes .templateName (.text given)
  | noTemplateName : Takes .templateName .null
  | outputDirectory (given : String) : Takes .outputDirectory (.text given)
  | noOutputDirectory : Takes .outputDirectory .null
  | writeDump (given : Bool) : Takes .writeDump (.boolean given)
  | logLevel (given : String) : Takes .logLevel (.text given)

end Setting

namespace Config

variable {entries before : List (Value × Value)} {config other : Config} {setting : Setting}
  {key value : Value}

theorem fits_iff_takes : Fits setting value ↔ setting.Takes value.content := by
  constructor
  · intro fits
    cases setting with
    | writeDump =>
      obtain ⟨given, boolean⟩ := fits
      rw [boolean]
      constructor
    | templateName | outputDirectory =>
      obtain ⟨given, text⟩ | ⟨-, null⟩ := fits
      · rw [text]
        constructor
      · rw [null]
        constructor
    | _ =>
      obtain ⟨given, text⟩ | ⟨nullable, -⟩ := fits
      · rw [text]
        constructor
      · cases nullable
  · intro takes
    generalize shape : value.content = content at takes
    cases takes with
    | writeDump given => exact ⟨given, shape⟩
    | noTemplateName | noOutputDirectory => exact .inr ⟨rfl, shape⟩
    | locationStem given | initialStem given | templateName given | outputDirectory given | logLevel given =>
      exact .inl ⟨given, shape⟩

/-! ## Values that give settings -/

/-- The value that entries give a setting: that of the last entry under its key. -/
def given? (entries : List (Value × Value)) (setting : Setting) : Option Value :=
  Value.lookup setting.key entries.reverse

/-- Every key names a setting, and every value is of the type of its setting. -/
def WellTyped (entries : List (Value × Value)) : Prop :=
  ∀ entry ∈ entries, ∃ setting : Setting, entry.1 = .text setting.key ∧ setting.Takes entry.2.content

/-- Entries that give settings: they are well typed, and the level in upper case is the name of a level. -/
structure Acceptable (entries : List (Value × Value)) : Prop where
  typed : WellTyped entries
  level : ∀ value given, given? entries .logLevel = some value → value.content = .text given →
    ∃ level : Level, Text.upperCase given = level.name

/-- A setting as a value. -/
def field (config : Config) : Setting → Value
  | .locationStem => .text config.locationStem
  | .initialStem => .text config.initialStem
  | .templateName => (config.templateName.map Value.text).getD .null
  | .outputDirectory => (config.outputDirectory.map Value.text).getD .null
  | .writeDump => .boolean config.writeDump
  | .logLevel => .text config.logLevel

/-- What settings hold of a value: a level in upper case, and everything else as it is. -/
def held : Setting → Value → Value
  | .logLevel, .text given => .text (Text.upperCase given)
  | _, value => value

/-- What entries make of a setting: what is given for it, or its default. -/
def chosen (entries : List (Value × Value)) (setting : Setting) : Value :=
  match given? entries setting with
  | some value => held setting value.content
  | none => ({} : Config).field setting

theorem eq_of_optional_eq {left right : Option String}
    (same : (left.map Value.text).getD .null = (right.map Value.text).getD .null) : left = right := by
  cases left with
  | none => cases right with
    | none => rfl
    | some text => cases same
  | some text => cases right with
    | none => cases same
    | some other => rw [Value.text.inj same]

/-- Settings are the same when all of them have the same values. -/
theorem ext_field (same : ∀ setting, config.field setting = other.field setting) : config = other := by
  have locationStem : config.locationStem = other.locationStem := Value.text.inj (same .locationStem)
  have initialStem : config.initialStem = other.initialStem := Value.text.inj (same .initialStem)
  have templateName : config.templateName = other.templateName := eq_of_optional_eq (same .templateName)
  have outputDirectory : config.outputDirectory = other.outputDirectory :=
    eq_of_optional_eq (same .outputDirectory)
  have writeDump : config.writeDump = other.writeDump := Value.boolean.inj (same .writeDump)
  have logLevel : config.logLevel = other.logLevel := Value.text.inj (same .logLevel)
  cases config
  cases other
  simp only [mk.injEq]
  exact ⟨locationStem, initialStem, templateName, outputDirectory, writeDump, logLevel⟩

/-! ## Taking values -/

/-- The keys are known and the values fit. -/
theorem wellTyped_iff : WellTyped entries ↔ unknownKeys entries = [] ∧ Fitting entries := by
  have known : unknownKeys entries = [] ↔
      ∀ entry ∈ entries, ∃ setting : Setting, entry.1 = .text setting.key := by
    simp only [unknownKeys, List.filter_eq_nil_iff, List.forall_mem_map, Bool.not_eq_true,
      Option.isNone_eq_false_iff, Option.isSome_iff_exists, Setting.ofValue?_eq_some_iff]
  simp only [known, Fitting, Setting.ofValue?_eq_some_iff, fits_iff_takes]
  constructor
  · intro typed
    refine ⟨fun entry present => ?_, fun entry present setting named => ?_⟩
    · obtain ⟨setting, named, -⟩ := typed entry present
      exact ⟨setting, named⟩
    · obtain ⟨own, ownNamed, takes⟩ := typed entry present
      have same : own.key = setting.key := Value.text.inj (ownNamed.symm.trans named)
      exact Setting.key_injective same ▸ takes
  · rintro ⟨named, takes⟩ entry present
    obtain ⟨setting, key⟩ := named entry present
    exact ⟨setting, key, takes entry present setting key⟩

/-- A value that a setting takes is what the setting has afterwards, and the other settings stay. -/
theorem field_assign (takes : setting.Takes value.content) (asked : Setting) :
    (config.assign setting value).field asked = if asked = setting then value.content else config.field asked := by
  generalize shape : value.content = content at takes
  cases takes <;> cases asked <;> simp [assign, shape, field]

theorem given?_concat_self (setting : Setting) (value : Value) :
    given? (before ++ [(.text setting.key, value)]) setting = some value := by
  simp [given?, Value.lookup]

theorem given?_concat_of_ne {asked : Setting} (different : asked ≠ setting) (value : Value) :
    given? (before ++ [(.text setting.key, value)]) asked = given? before asked := by
  have keys : ¬setting.key = asked.key := fun same => different (Setting.key_injective same).symm
  simp [given?, Value.lookup, keys]

theorem assignAll_concat (named : Setting.ofValue? key = some setting) :
    assignAll config (before ++ [(key, value)]) = (assignAll config before).assign setting value := by
  simp [assignAll, named]

/-- After all entries a setting has the value that is given for it last, or the one it had before. -/
theorem field_assignAll (config : Config) (typed : WellTyped entries) (asked : Setting) :
    (assignAll config entries).field asked =
      ((given? entries asked).map Value.content).getD (config.field asked) := by
  induction entries using List.reverseRecOn with
  | nil => rfl
  | append_singleton before entry inductionHypothesis =>
    obtain ⟨key, value⟩ := entry
    obtain ⟨others, own⟩ := List.forall_mem_append.mp typed
    obtain ⟨setting, named, takes⟩ := own (key, value) (List.mem_singleton.mpr rfl)
    obtain rfl : key = .text setting.key := named
    rw [assignAll_concat (Setting.ofValue?_eq_some_iff.mpr rfl), field_assign takes,
      inductionHypothesis others]
    by_cases same : asked = setting
    · rw [if_pos same, same, given?_concat_self]
      rfl
    · rw [if_neg same, given?_concat_of_ne same]

/-! ## Reading settings -/

theorem checkLevel_eq_ok_iff {given level : String} : checkLevel given = .ok level ↔
    level = Text.upperCase given ∧ ∃ own : Level, Text.upperCase given = own.name := by
  simp only [checkLevel, ← Level.ofName?_eq_some_iff, ← Option.isSome_iff_exists]
  split
  · rename_i named
    simp [named, eq_comm]
  · rename_i unnamed
    simp [unnamed]

theorem upperCase_name (level : Level) : Text.upperCase level.name = level.name := by
  cases level <;> decide

/-- Entries give settings when the checks pass, and then the settings are those assigned, with their level in
upper case. -/
theorem ofEntries_eq_ok_iff [Runtime] : ofEntries entries = .ok config ↔ WellTyped entries ∧
    ∃ level, checkLevel (assignAll {} entries).logLevel = .ok level ∧
      config = { assignAll {} entries with logLevel := level } := by
  rw [wellTyped_iff]
  constructor
  · intro read
    obtain ⟨_, keys, afterKeys⟩ := bind_eq_ok read
    obtain ⟨_, types, afterTypes⟩ := bind_eq_ok afterKeys
    obtain ⟨level, checked, made⟩ := bind_eq_ok afterTypes
    exact ⟨⟨checkKeys_eq_ok_iff.mp keys, checkTypes_eq_ok_iff.mp types⟩, level, checked,
      (Except.ok.inj made).symm⟩
  · rintro ⟨⟨known, fitting⟩, level, checked, rfl⟩
    rw [ofEntries_of_fitting known fitting, checked]
    rfl

/-- The level that is assigned is the one that is given last, or the default. -/
theorem logLevel_assignAll (typed : WellTyped entries) :
    (∃ value, given? entries .logLevel = some value ∧
      value.content = .text (assignAll {} entries).logLevel) ∨
      given? entries .logLevel = none ∧ (assignAll {} entries).logLevel = "INFO" := by
  have level := field_assignAll {} typed .logLevel
  cases given : given? entries .logLevel with
  | some value =>
    rw [given] at level
    exact .inl ⟨value, rfl, level.symm⟩
  | none =>
    rw [given] at level
    exact .inr ⟨rfl, Value.text.inj level⟩

/-- Each setting of settings with another level is as it was, but for the level. -/
theorem field_with_logLevel (config : Config) (level : String) (asked : Setting) :
    ({ config with logLevel := level } : Config).field asked =
      if asked = .logLevel then .text level else config.field asked := by
  cases asked <;> rfl

theorem held_of_ne (other : setting ≠ .logLevel) (value : Value) : held setting value = value := by
  cases setting <;> first | rfl | contradiction

/-- The settings that are assigned, with their level in upper case, are the ones that the entries make. -/
theorem field_assigned (typed : WellTyped entries) (asked : Setting) :
    ({ assignAll {} entries with logLevel := Text.upperCase (assignAll {} entries).logLevel } : Config).field
      asked = chosen entries asked := by
  rw [field_with_logLevel, chosen]
  by_cases same : asked = .logLevel
  · subst same
    obtain ⟨value, given, content⟩ | ⟨given, content⟩ := logLevel_assignAll typed
    · rw [if_pos rfl, given]
      simp only [content, held]
    · rw [if_pos rfl, given, content]
      exact congrArg Value.text (upperCase_name .info)
  · rw [if_neg same, field_assignAll {} typed asked]
    cases given? entries asked with
    | some value => exact (held_of_ne same value.content).symm
    | none => rfl

/-- Entries give settings exactly when they are acceptable, and then the ones that they make. -/
theorem ofEntries_eq_ok_iff_chosen [Runtime] : ofEntries entries = .ok config ↔
    Acceptable entries ∧ ∀ setting, config.field setting = chosen entries setting := by
  rw [ofEntries_eq_ok_iff]
  constructor
  · rintro ⟨typed, level, checked, rfl⟩
    obtain ⟨rfl, named⟩ := checkLevel_eq_ok_iff.mp checked
    refine ⟨⟨typed, fun value given present text => ?_⟩, field_assigned typed⟩
    obtain ⟨other, otherGiven, content⟩ | ⟨absent, -⟩ := logLevel_assignAll typed
    · rw [present] at otherGiven
      obtain rfl := Option.some.inj otherGiven
      rw [text] at content
      rwa [Value.text.inj content]
    · rw [present] at absent
      cases absent
  · rintro ⟨acceptable, same⟩
    have typed := acceptable.typed
    have named : ∃ level : Level, Text.upperCase (assignAll {} entries).logLevel = level.name := by
      obtain ⟨value, given, content⟩ | ⟨-, content⟩ := logLevel_assignAll typed
      · exact acceptable.level value _ given content
      · rw [content]
        exact ⟨.info, upperCase_name .info⟩
    refine ⟨typed, _, checkLevel_eq_ok_iff.mpr ⟨rfl, named⟩, ?_⟩
    apply ext_field
    intro setting
    rw [same, field_assigned typed]

/-! ## Values -/

/-- The entries that a value lists for settings: those of a mapping, and none for null. -/
inductive Lists : Value → List (Value × Value) → Prop
  | nothing {value : Value} (null : value.content = .null) : Lists value []
  | mapping {value : Value} {entries : List (Value × Value)} (shape : value.content = .mapping entries) :
    Lists value entries

theorem Lists.unique {others : List (Value × Value)} (listed : Lists value entries) (again : Lists value others) :
    entries = others := by
  cases listed with
  | nothing null =>
    cases again with
    | nothing => rfl
    | mapping shape => cases null.symm.trans shape
  | mapping shape =>
    cases again with
    | nothing null => cases null.symm.trans shape
    | mapping other => exact Value.mapping.inj (shape.symm.trans other)

theorem acceptable_nil : Acceptable [] :=
  ⟨nofun, nofun⟩

/-- Without entries all settings have their defaults. -/
theorem eq_default_iff : config = {} ↔ ∀ setting, config.field setting = chosen [] setting := by
  constructor
  · rintro rfl setting
    rfl
  · exact ext_field

/-- A value gives settings exactly when its entries are acceptable, and then the ones that they make. -/
theorem ofValue_eq_ok_iff [Runtime] : ofValue value = .ok config ↔ ∃ entries, Lists value entries ∧
    Acceptable entries ∧ ∀ setting, config.field setting = chosen entries setting := by
  constructor
  · intro read
    unfold ofValue at read
    split at read
    · rename_i null
      exact ⟨[], .nothing null, acceptable_nil, eq_default_iff.mp (Except.ok.inj read).symm⟩
    · rename_i entries shape
      exact ⟨entries, .mapping shape, ofEntries_eq_ok_iff_chosen.mp read⟩
    · cases read
  · rintro ⟨entries, listed, made⟩
    rw [ofValue]
    cases listed with
    | nothing null => rw [null, eq_default_iff.mpr made.2]
    | mapping shape =>
      rw [shape]
      exact ofEntries_eq_ok_iff_chosen.mpr made

/-- A dotless i has the letter of the name as its upper case. -/
example : checkLevel "\u0131nfo" = .ok "INFO" := by decide +kernel

/-- Exactly the values whose entries are acceptable give settings. -/
theorem exists_ofValue_iff [Runtime] :
    (∃ config, ofValue value = .ok config) ↔ ∃ entries, Lists value entries ∧ Acceptable entries := by
  constructor
  · rintro ⟨config, read⟩
    obtain ⟨entries, listed, acceptable, -⟩ := ofValue_eq_ok_iff.mp read
    exact ⟨entries, listed, acceptable⟩
  · rintro ⟨entries, listed, acceptable⟩
    exact ⟨_, ofValue_eq_ok_iff.mpr ⟨entries, listed, acceptable, field_assigned acceptable.typed⟩⟩

/-! ## Settings as values -/

/-- Settings as a value: a mapping with all of them. -/
def toValue (config : Config) : Value :=
  .mapping (Setting.all.map fun setting => (.text setting.key, config.field setting))

/-- The level of settings is the name of a level. -/
def HasLevel (config : Config) : Prop :=
  ∃ level : Level, config.logLevel = level.name

theorem takes_field (config : Config) (setting : Setting) : setting.Takes (config.field setting) := by
  obtain ⟨location, initial, template, directory, dump, level⟩ := config
  cases setting <;> cases template <;> cases directory <;> constructor

theorem content_field (config : Config) (setting : Setting) :
    (config.field setting).content = config.field setting := by
  obtain ⟨location, initial, template, directory, dump, level⟩ := config
  cases setting <;> cases template <;> cases directory <;> rfl

theorem given?_toValue (config : Config) (setting : Setting) :
    given? (Setting.all.map fun setting => (.text setting.key, config.field setting)) setting =
      some (config.field setting) := by
  cases setting <;> rfl

/-- Settings with a level are accepted as they are. -/
theorem ofValue_toValue [Runtime] (leveled : HasLevel config) : ofValue config.toValue = .ok config := by
  obtain ⟨level, named⟩ := leveled
  refine ofValue_eq_ok_iff.mpr ⟨_, .mapping rfl, ⟨?_, ?_⟩, ?_⟩
  · intro entry present
    obtain ⟨setting, -, rfl⟩ := List.mem_map.mp present
    refine ⟨setting, rfl, ?_⟩
    rw [content_field]
    exact takes_field config setting
  · intro value given present text
    rw [given?_toValue] at present
    obtain rfl := Option.some.inj present
    obtain rfl : config.logLevel = given := Value.text.inj text
    exact ⟨level, by rw [named, upperCase_name]⟩
  · intro setting
    rw [chosen, given?_toValue]
    by_cases same : setting = .logLevel
    · subst same
      simp only [field, Value.content, held, named, upperCase_name]
    · simp only [content_field, held_of_ne same]

/-- Settings that a value gives have a level. -/
theorem hasLevel_of_ofValue [Runtime] (read : ofValue value = .ok config) : HasLevel config := by
  unfold ofValue at read
  split at read
  · obtain rfl := Except.ok.inj read
    exact ⟨.info, rfl⟩
  · obtain ⟨-, level, checked, rfl⟩ := ofEntries_eq_ok_iff.mp read
    obtain ⟨rfl, named⟩ := checkLevel_eq_ok_iff.mp checked
    exact named
  · cases read

end Config

end TraceAutomata
