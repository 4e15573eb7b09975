import TraceAutomata.CommandLine.Usage
import TraceAutomata.Config.File
import TraceAutomata.Transformation

/-!
# Running a command line

From the arguments and the files to an exit code, the texts written to standard output and standard
error, and the files afterwards. The code is 0 when a document was written or help was asked for, 1 when
the settings or the transformation failed, and 2 when the command line is wrong. Records of the log go to
standard error from the configured level on.
-/

namespace TraceAutomata.CommandLine

variable [Runtime]

/-- The faults that a run passes on. -/
inductive Fault
  | config (fault : ConfigFileFault)
  | noLevel
  | run (fault : RunFault)
  deriving DecidableEq, Repr

/-- The wording of a fault. -/
def Fault.message : Fault → String
  | .config (.settings (.refused error)) => error.message
  | .config (.settings .incomparableKeys) => "the unknown configuration keys have no order"
  | .config (.settings (.value fault)) => fault.message
  | .config (.access fault) => fault.message
  | .config (.encoding fault) => fault.message
  | .noLevel => "Level not an integer or a valid string: []"
  | .run fault => fault.message

/-- How a run ends. -/
structure Exit where
  code : Nat
  output : String := ""
  errors : String := ""
  deriving DecidableEq, Repr

/-- A run that has ended: the files, all events, and the exit or the fault. -/
structure Ran where
  files : FileSystem
  events : List Event := []
  exit : Except Fault Exit

/-- A record of the log as a line. -/
def logLine (record : LogRecord) : String :=
  record.level.name ++ " " ++ record.logger ++ ": " ++ record.message ++ "\n"

/-- The lines of the records from a level on. -/
def logText (threshold : Level) (events : List Event) : String :=
  String.join (((LogRecord.ofEvents events).filter fun record =>
    threshold.rank ≤ record.level.rank).map logLine)

/-- The line about a failure. -/
def failureLine (message : String) : String :=
  "Error: " ++ message ++ "\n"

/-- The settings in the file that the options name; without one, the defaults. -/
def baseConfig (options : Options) (files : FileSystem) : Except ConfigFileFault Config :=
  match options.config with
  | none => .ok {}
  | some path => if path.isEmpty then .ok {} else Config.ofFile files path

/-- The name that is given for the template, if one is. Nothing in its place counts as an empty name. -/
def templateName? (options : Options) : Option String :=
  options.templateName.map fun
    | .value name => name
    | .nothing => ""

/-- The name of the level that is given, if one is. -/
def levelName? (options : Options) : Option String :=
  match options.logLevel with
  | some (.value level) => some level.name
  | _ => none

/-- The settings that the options replace. -/
def overrides (options : Options) : Config.Overrides :=
  { templateName := templateName? options
    writeDump := if options.dumpModel then some true else none
    logLevel := levelName? options }

/-- The transformation that options ask for under some settings. -/
def jobOf (options : Options) (config : Config) : Job :=
  { trace := options.trace, output := options.output, config := config.merged (overrides options) }

/-- The exit after a transformation. -/
def exitOf (config : Config) (events : List Event) (result : RunResult) : Exit :=
  let log := logText ((Level.ofName? config.logLevel).getD .info) events
  match result with
  | { success := true, outputPath := some path, .. } => { code := 0, output := path ++ "\n", errors := log }
  | { error := some message, .. } => { code := 1, errors := log ++ failureLine message }
  | _ => { code := 1, errors := log }

/-- The paths that a run with these options reads before it writes: those of the trace and of the
settings. -/
def inputPaths (options : Options) : List String :=
  options.trace :: options.config.toList

/-- The paths that a run with these options may write to, as far as its settings can be read. -/
def outputPaths (options : Options) (files : FileSystem) : List String :=
  match baseConfig options files with
  | .error _ => []
  | .ok config =>
    let document := Path.document (jobOf options config).outputPath.toList
    [String.ofList document, String.ofList (Path.dump document)]

/-- Carry out the transformation that options ask for. The log needs a level. -/
def transform (options : Options) (files : FileSystem) : Ran :=
  match baseConfig options files with
  | .error (.settings (.refused error)) =>
    { files, exit := .ok { code := 1, errors := failureLine error.message } }
  | .error fault => { files, exit := .error (.config fault) }
  | .ok config =>
    if options.logLevel == some .nothing then { files, exit := .error .noLevel }
    else
      let job := jobOf options config
      let ended := Transformation.run job { files }
      { files := ended.workspace.files
        events := ended.events
        exit := (ended.verdict.result.map (exitOf job.config ended.events)).mapError .run }

/-- Run a command line. -/
def run (arguments : List String) (files : FileSystem) : Ran :=
  match Options.ofArguments arguments with
  | .error .help => { files, exit := .ok { code := 0, output := help } }
  | .error (.usage error) => { files, exit := .ok { code := 2, errors := complaint error } }
  | .ok options => transform options files

end TraceAutomata.CommandLine
