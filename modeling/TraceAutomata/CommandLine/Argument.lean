import TraceAutomata.Text.DecimalDigit

/-!
# Arguments

What each argument of a command line is, decided before any of them takes effect. An argument that starts
with a hyphen is an option if it is an option's name, a beginning of exactly one long name, or a short
name with a value attached; otherwise it is unknown, unless it looks like a negative number or holds a
blank. All arguments after two hyphens alone are operands.
-/

namespace TraceAutomata.CommandLine

/-- The options. -/
inductive Flag
  | help
  | output
  | config
  | templateName
  | dumpModel
  | logLevel
  deriving DecidableEq, Repr

namespace Flag

/-- All options, in the order in which they are listed. -/
def all : List Flag := [.help, .output, .config, .templateName, .dumpModel, .logLevel]

/-- The names of an option: a short one if it has one, and a long one. -/
def names : Flag → List String
  | .help => ["-h", "--help"]
  | .output => ["-o", "--output"]
  | .config => ["-c", "--config"]
  | .templateName => ["--template-name"]
  | .dumpModel => ["--dump-model"]
  | .logLevel => ["--log-level"]

/-- Whether an option takes a value. -/
def takesValue : Flag → Bool
  | .help => false
  | .dumpModel => false
  | _ => true

/-- An option as it is called in a message: all its names. -/
def title (flag : Flag) : String :=
  "/".intercalate flag.names

/-- All names with their options, in order. -/
def spelled : List (List Char × Flag) :=
  all.flatMap fun flag => flag.names.map fun name => (name.toList, flag)

/-- The option of a name. -/
def ofName? (name : List Char) : Option Flag :=
  spelled.lookup name

end Flag

/-- What an argument is. `short` says that an option is given by its short name, and `attached` is the value
attached to the name, after an equals sign or directly. -/
inductive Argument
  | operand (text : String)
  | separator
  | option (flag : Flag) (short : Bool) (attached : Option (List Char))
  | unknown (text : String)
  deriving DecidableEq, Repr

/-- Why a command line is refused. -/
inductive UsageError
  | ambiguous (given : String) (candidates : List String)
  | valueExpected (flag : Flag)
  | valueIgnored (flag : Flag) (value : String)
  | unknownLevel (given : String)
  | traceExpected
  | unrecognized (arguments : List String)
  deriving DecidableEq, Repr

namespace Argument

/-- Cut a text at its first equals sign. -/
def splitAtEquals (text : List Char) : List Char × Option (List Char) :=
  let name := text.takeWhile (· != '=')
  match text.dropWhile (· != '=') with
  | [] => (name, none)
  | _ :: value => (name, some value)

/-- Whether a name is a short one. -/
def isShortName : List Char → Bool
  | ['-', second] => second != '-'
  | _ => false

/-- Whether digits are all there is, and there is one. -/
def areDigits (text : List Char) : Bool :=
  !text.isEmpty && text.all Text.isDecimalDigit

/-- Whether what follows a hyphen is a number: digits, or digits after a point. One line feed at the end
is passed over. -/
def isNumber (text : List Char) : Bool :=
  let text := if text.getLast? == some '\n' then text.dropLast else text
  areDigits text ||
    match text.dropWhile Text.isDecimalDigit with
    | '.' :: fraction => areDigits fraction
    | _ => false

/-- What an argument is that starts with a hyphen and is no option. -/
def ofUnknown (text : List Char) : Argument :=
  if isNumber (text.drop 1) || text.contains ' ' then .operand (String.ofList text)
  else .unknown (String.ofList text)

/-- An argument that starts with two hyphens and is no complete name: it may be the beginning of a long
name. -/
def ofLongBeginning (text : List Char) : Except UsageError Argument :=
  let (beginning, value) := splitAtEquals text
  match Flag.spelled.filter fun entry => beginning.isPrefixOf entry.1 with
  | [] => .ok (ofUnknown text)
  | [(_, flag)] => .ok (.option flag false value)
  | candidates =>
    .error (.ambiguous (String.ofList text) (candidates.map fun entry => String.ofList entry.1))

/-- What an argument is that starts with a hyphen, followed by another character. -/
def ofHyphenated (text : List Char) : Except UsageError Argument :=
  match Flag.ofName? text with
  | some flag => .ok (.option flag (isShortName text) none)
  | none =>
    match splitAtEquals text with
    | (name, some value) =>
      match Flag.ofName? name with
      | some flag => .ok (.option flag (isShortName name) (some value))
      | none => ofBeginning text
    | (_, none) => ofBeginning text
where
  /-- Neither the argument nor its part before an equals sign is a name. -/
  ofBeginning (text : List Char) : Except UsageError Argument :=
    match text with
    | '-' :: '-' :: _ => ofLongBeginning text
    | first :: second :: value =>
      match Flag.ofName? [first, second] with
      | some flag => .ok (.option flag true (some value))
      | none => .ok (ofUnknown text)
    | _ => .ok (ofUnknown text)

/-- What an argument is that stands before two hyphens alone. -/
def ofText (text : String) : Except UsageError Argument :=
  match text.toList with
  | '-' :: rest => if rest.isEmpty then .ok (.operand text) else ofHyphenated ('-' :: rest)
  | _ => .ok (.operand text)

/-- What all arguments are. -/
def ofTexts : List String → Except UsageError (List Argument)
  | [] => .ok []
  | text :: rest =>
    if text == "--" then .ok (.separator :: rest.map .operand)
    else do
      let argument ← ofText text
      let others ← ofTexts rest
      return argument :: others

end Argument

end TraceAutomata.CommandLine
