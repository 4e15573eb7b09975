import TraceAutomata.Document.ValueFault
import TraceAutomata.Journal
import TraceAutomata.Text.UpperCase

/-!
# Settings of a transformation

The settings with their defaults, and their reading from a document value: every key must be a known one,
every value of its key's type, and the logging level one of the known levels in any letter case.
-/

namespace TraceAutomata

/-- The settings of one transformation. -/
structure Config where
  locationStem : String := ""
  initialStem : String := "Init"
  templateName : Option String := none
  outputDirectory : Option String := none
  writeDump : Bool := false
  logLevel : String := "INFO"
  deriving DecidableEq, Repr

/-- The keys under which settings are given. -/
inductive Setting
  | locationStem
  | initialStem
  | templateName
  | outputDirectory
  | writeDump
  | logLevel
  deriving DecidableEq, Repr

namespace Setting

/-- All settings. -/
def all : List Setting :=
  [.locationStem, .initialStem, .templateName, .outputDirectory, .writeDump, .logLevel]

/-- The key of a setting. -/
def key : Setting → String
  | .locationStem => "location_prefix"
  | .initialStem => "initial_prefix"
  | .templateName => "template_name"
  | .outputDirectory => "output_dir"
  | .writeDump => "write_model_dump"
  | .logLevel => "log_level"

/-- The setting of a key. -/
def ofKey? (wanted : String) : Option Setting :=
  all.find? fun setting => setting.key == wanted

/-- The setting that a document key names. -/
def ofValue? : Value → Option Setting
  | .text wanted => ofKey? wanted
  | _ => none

/-- Whether a setting may be null. -/
def mayBeNull : Setting → Bool
  | .templateName => true
  | .outputDirectory => true
  | _ => false

end Setting

/-- Why settings are refused. -/
inductive ConfigError
  | notAMapping (kind : String)
  | unknownKeys (shown : List String)
  | notBoolean (setting : Setting) (shown : String)
  | notText (setting : Setting) (shown : String)
  | unknownLevel (given : String)
  | fileNotFound (path : String)
  | malformedFile (path : String)
  deriving DecidableEq, Repr

/-- The wording of an error. The detail of a malformed file is not given. -/
def ConfigError.message [Runtime] : ConfigError → String
  | .notAMapping kind => "Configuration must be a mapping, got " ++ kind
  | .unknownKeys shown => "Unknown configuration keys: " ++ Text.bracketed shown
  | .notBoolean setting shown => "'" ++ setting.key ++ "' must be true or false, got " ++ shown
  | .notText setting shown => "'" ++ setting.key ++ "' must be text, got " ++ shown
  | .unknownLevel given =>
    "'" ++ Setting.logLevel.key ++ "' must be one of "
      ++ Text.bracketed (Level.all.map fun level => Text.quoted level.name) ++ ", got "
      ++ Text.quoted given
  | .fileNotFound path => "Configuration file not found: " ++ path
  | .malformedFile path => "Invalid configuration file " ++ path ++ ": YAML"

/-- What keeps settings from being read: a refusal, or something that is not the settings' own error. -/
inductive ConfigFault
  | refused (error : ConfigError)
  | incomparableKeys
  | value (fault : ValueFault)
  deriving DecidableEq, Repr

namespace Config

section Reading

variable [Runtime]

/-- The error about keys that are no settings, listed in order; keys without an order are a fault of
their own. -/
def checkKeys (entries : List (Value × Value)) : Except ConfigFault Unit :=
  match entries.map Prod.fst |>.filter fun key => (Setting.ofValue? key).isNone with
  | [] => .ok ()
  | unknown =>
    match Value.sortKeys? unknown with
    | none => .error .incomparableKeys
    | some ordered =>
      match ordered.mapM Value.shownText with
      | .ok shown => .error (.refused (.unknownKeys shown))
      | .error fault => .error (.value fault)

/-- Refuse a value for a setting, showing it. -/
def refuse (error : String → ConfigError) (value : Value) : Except ConfigFault Unit :=
  match value.shownText with
  | .ok shown => .error (.refused (error shown))
  | .error fault => .error (.value fault)

/-- Check the type of a setting's value. -/
def checkType (setting : Setting) (value : Value) : Except ConfigFault Unit :=
  match setting, value.content with
  | .writeDump, .boolean _ => .ok ()
  | .writeDump, _ => refuse (.notBoolean .writeDump) value
  | _, .text _ => .ok ()
  | other, .null => if other.mayBeNull then .ok () else refuse (.notText other) .null
  | other, _ => refuse (.notText other) value

/-- Check the types of all values, in order. -/
def checkTypes : List (Value × Value) → Except ConfigFault Unit
  | [] => .ok ()
  | (key, value) :: rest =>
    match Setting.ofValue? key with
    | none => checkTypes rest
    | some setting => do
      checkType setting value
      checkTypes rest

/-- The settings with one of them given; a value of another type changes nothing. -/
def assign (config : Config) (setting : Setting) (value : Value) : Config :=
  match setting, value.content with
  | .locationStem, .text given => { config with locationStem := given }
  | .initialStem, .text given => { config with initialStem := given }
  | .templateName, .text given => { config with templateName := some given }
  | .templateName, .null => { config with templateName := none }
  | .outputDirectory, .text given => { config with outputDirectory := some given }
  | .outputDirectory, .null => { config with outputDirectory := none }
  | .writeDump, .boolean given => { config with writeDump := given }
  | .logLevel, .text given => { config with logLevel := given }
  | _, _ => config

/-- The settings with every entry of a known key given. -/
def assignAll (config : Config) (entries : List (Value × Value)) : Config :=
  entries.foldl (fun current entry =>
    match Setting.ofValue? entry.1 with
    | some setting => current.assign setting entry.2
    | none => current) config

/-- The level in upper case, which must be one of the levels. -/
def checkLevel (given : String) : Except ConfigFault String :=
  let level := Text.upperCase given
  if (Level.ofName? level).isSome then .ok level else .error (.refused (.unknownLevel given))

/-- The settings of a mapping's entries. -/
def ofEntries (entries : List (Value × Value)) : Except ConfigFault Config := do
  checkKeys entries
  checkTypes entries
  let config := assignAll {} entries
  let level ← checkLevel config.logLevel
  return { config with logLevel := level }

/-- The settings that a value gives; null gives the defaults. -/
def ofValue (value : Value) : Except ConfigFault Config :=
  match value.content with
  | .null => .ok {}
  | .mapping entries => ofEntries entries
  | other => .error (.refused (.notAMapping other.kindName))

end Reading

/-- Settings that replace others, each only where it is given. -/
structure Overrides where
  locationStem : Option String := none
  initialStem : Option String := none
  templateName : Option String := none
  outputDirectory : Option String := none
  writeDump : Option Bool := none
  logLevel : Option String := none
  deriving DecidableEq, Repr

/-- The settings with every given one replaced. -/
def merged (config : Config) (overrides : Overrides) : Config :=
  { locationStem := overrides.locationStem.getD config.locationStem
    initialStem := overrides.initialStem.getD config.initialStem
    templateName := overrides.templateName.or config.templateName
    outputDirectory := overrides.outputDirectory.or config.outputDirectory
    writeDump := overrides.writeDump.getD config.writeDump
    logLevel := overrides.logLevel.getD config.logLevel }

/-- The first key of an entry that is given and names no setting. -/
def unknownOverride? (entries : List (Value × Value)) : Option Value :=
  (entries.find? fun entry =>
    match entry.2 with
    | .null => false
    | _ => (Setting.ofValue? entry.1).isNone).map Prod.fst

/-- The overrides that entries give; a null entry gives none, whatever its key. Answers nothing when an
entry that is given names no setting. -/
def Overrides.ofEntries? (entries : List (Value × Value)) : Option Overrides :=
  if (unknownOverride? entries).isSome then none
  else
    let text? (setting : Setting) : Option String :=
      match Value.lookup setting.key entries with
      | some (.text given) => some given
      | _ => none
    some
      { locationStem := text? .locationStem
        initialStem := text? .initialStem
        templateName := text? .templateName
        outputDirectory := text? .outputDirectory
        writeDump := match Value.lookup Setting.writeDump.key entries with
          | some (.boolean given) => some given
          | _ => none
        logLevel := text? .logLevel }

end Config

end TraceAutomata
