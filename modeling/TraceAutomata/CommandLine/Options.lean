import TraceAutomata.CommandLine.Argument
import TraceAutomata.Journal
import TraceAutomata.Text.Quoted
import TraceAutomata.Text.UpperCase

/-!
# Options

The options that a command line gives. Arguments take effect from left to right: a later value of an
option replaces an earlier one, the request for help ends the reading at once, and so does the first
error. The first operand is the trace; whatever is left over is reported at the end, after a missing
trace.
-/

namespace TraceAutomata.CommandLine

/-- What is given for a setting: a value, or nothing in its place, which two hyphens alone give. -/
inductive Given (α : Type)
  | value (given : α)
  | nothing
  deriving DecidableEq, Repr

/-- What a command line asks for. -/
structure Options where
  trace : String
  output : Option String := none
  config : Option String := none
  templateName : Option (Given String) := none
  dumpModel : Bool := false
  logLevel : Option (Given Level) := none
  deriving DecidableEq, Repr

/-- Why the reading of a command line stops early. -/
inductive Stop
  | help
  | usage (error : UsageError)
  deriving DecidableEq, Repr

namespace UsageError

/-- A message about an option. -/
def aboutFlag (flag : Flag) (rest : String) : String :=
  "argument " ++ flag.title ++ ": " ++ rest

/-- The wording of an error. -/
def message [Runtime] : UsageError → String
  | .ambiguous given candidates =>
    "ambiguous option: " ++ given ++ " could match " ++ ", ".intercalate candidates
  | .valueExpected flag => aboutFlag flag "expected one argument"
  | .valueIgnored flag value => aboutFlag flag ("ignored explicit argument " ++ Text.quoted value)
  | .unknownLevel given =>
    aboutFlag .logLevel ("invalid choice: " ++ Text.quoted given ++ " (choose from "
      ++ ", ".intercalate (Level.all.map fun level => Text.quoted level.name) ++ ")")
  | .traceExpected => "the following arguments are required: trace_file"
  | .unrecognized arguments => "unrecognized arguments: " ++ " ".intercalate arguments

end UsageError

/-- Options as far as they are read, with the arguments left over in reverse. -/
structure Reading where
  trace : Option String := none
  output : Option String := none
  config : Option String := none
  templateName : Option (Given String) := none
  dumpModel : Bool := false
  logLevel : Option (Given Level) := none
  leftOver : List String := []
  deriving DecidableEq, Repr

namespace Reading

/-- Leave an argument over. -/
def leave (reading : Reading) (text : String) : Reading :=
  { reading with leftOver := text :: reading.leftOver }

/-- Let an option without a value take effect. -/
def switch (reading : Reading) : Flag → Except Stop Reading
  | .help => .error .help
  | .dumpModel => .ok { reading with dumpModel := true }
  | _ => .ok reading

/-- The level that a value names, in any letter case. -/
def levelOf (value : String) : Except Stop (Given Level) :=
  if value == "--" then .ok .nothing
  else
    let name := Text.upperCase value
    match Level.ofName? name with
    | some level => .ok (.value level)
    | none => .error (.usage (.unknownLevel name))

/-- The name that a value gives the template. -/
def nameOf (value : String) : Given String :=
  if value == "--" then .nothing else .value value

/-- Let an option with a value take effect. In the place of a path, two hyphens alone are an empty one. -/
def assign (reading : Reading) (flag : Flag) (value : String) : Except Stop Reading :=
  let path := if value == "--" then "" else value
  match flag with
  | .output => .ok { reading with output := some path }
  | .config => .ok { reading with config := some path }
  | .templateName => .ok { reading with templateName := some (nameOf value) }
  | .logLevel => do return { reading with logLevel := some (← levelOf value) }
  | other => reading.switch other

/-- The options when nothing is left to read. -/
def finish (reading : Reading) : Except Stop Options :=
  match reading.trace with
  | none => .error (.usage .traceExpected)
  | some trace =>
    if reading.leftOver.isEmpty then
      .ok
        { trace
          output := reading.output
          config := reading.config
          templateName := reading.templateName
          dumpModel := reading.dumpModel
          logLevel := reading.logLevel }
    else .error (.usage (.unrecognized reading.leftOver.reverse))

end Reading

/-- The options in one argument: those without a value, then maybe one that has its value attached or one that
takes its value from the next argument. -/
structure Cluster where
  switches : List Flag := []
  valued : Option (Flag × String) := none
  waiting : Option Flag := none
  deriving DecidableEq, Repr

/-- The options that a short name and the text attached to it stand for: short names may follow one that
takes no value. -/
def Cluster.ofShort (flag : Flag) (text : List Char) : Except UsageError Cluster :=
  if flag.takesValue then .ok { valued := some (flag, String.ofList text) }
  else
    match text with
    | [] => .error (.valueIgnored flag "")
    | character :: following =>
      match Flag.ofName? ['-', character] with
      | none => .error (.valueIgnored flag (String.ofList text))
      | some next =>
        match following with
        | [] =>
          if next.takesValue then .ok { switches := [flag], waiting := some next }
          else .ok { switches := [flag, next] }
        | other =>
          (ofShort next other).map fun cluster =>
            { cluster with switches := flag :: cluster.switches }

/-- The options in an argument. -/
def Cluster.ofOption (flag : Flag) (short : Bool) : Option (List Char) → Except UsageError Cluster
  | none =>
    if flag.takesValue then .ok { waiting := some flag } else .ok { switches := [flag] }
  | some attached =>
    if flag.takesValue then .ok { valued := some (flag, String.ofList attached) }
    else if short then ofShort flag attached
    else .error (.valueIgnored flag (String.ofList attached))

namespace Reading

/-- Let the options without a value take effect one after another. -/
def switchAll (reading : Reading) : List Flag → Except Stop Reading
  | [] => .ok reading
  | flag :: rest => do
    let next ← reading.switch flag
    next.switchAll rest

/-- Let the options in an argument take effect; `value` is the one that the last of them takes from the
next argument. -/
def apply (reading : Reading) (cluster : Cluster) (value : Option (Flag × String)) :
    Except Stop Reading := do
  let switched ← reading.switchAll cluster.switches
  match cluster.valued.or value with
  | some (flag, text) => switched.assign flag text
  | none => return switched

/-- Arguments without two hyphens alone at their front. -/
def dropSeparator : List Argument → List Argument
  | .separator :: rest => rest
  | arguments => arguments

theorem length_dropSeparator_le (arguments : List Argument) :
    (dropSeparator arguments).length ≤ arguments.length := by
  unfold dropSeparator
  split <;> simp

/-- The operand at the front of some arguments, and the arguments after it. -/
def nextOperand : (arguments : List Argument) →
    Option (String × { following : List Argument // following.length < arguments.length })
  | .operand text :: following => some (text, ⟨following, by simp⟩)
  | _ => none

/-- Read arguments from left to right. Two hyphens alone are dropped next to the operand that is the
trace. -/
def readAll (reading : Reading) : List Argument → Except Stop Reading
  | [] => .ok reading
  | .operand text :: rest =>
    if reading.trace.isSome then (reading.leave text).readAll rest
    else
      have _shorter := length_dropSeparator_le rest
      { reading with trace := some text }.readAll (dropSeparator rest)
  | .separator :: rest =>
    if reading.trace.isSome then (reading.leave "--").readAll rest
    else
      match nextOperand rest with
      | some (text, following) =>
        have _shorter := following.property
        { reading with trace := some text }.readAll following.val
      | none => (reading.leave "--").readAll rest
  | .unknown text :: rest => (reading.leave text).readAll rest
  | .option flag short attached :: rest =>
    match Cluster.ofOption flag short attached with
    | .error error => .error (.usage error)
    | .ok cluster =>
      match cluster.waiting with
      | none => do
        let next ← reading.apply cluster none
        next.readAll rest
      | some waiting =>
        match nextOperand rest with
        | none => .error (.usage (.valueExpected waiting))
        | some (text, following) => do
          have _shorter := following.property
          let next ← reading.apply cluster (some (waiting, text))
          next.readAll following.val
termination_by arguments => arguments.length
decreasing_by
  all_goals
    simp only [List.length_cons]
    omega

end Reading

/-- The options that some arguments give. -/
def Options.ofArguments (arguments : List String) : Except Stop Options :=
  match Argument.ofTexts arguments with
  | .error error => .error (.usage error)
  | .ok classified => do
    let reading ← ({} : Reading).readAll classified
    reading.finish

end TraceAutomata.CommandLine
