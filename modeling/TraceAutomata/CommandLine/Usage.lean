import TraceAutomata.CommandLine.Options
import TraceAutomata.Text.Lines

/-!
# Usage

The texts that explain the command line: a summary of the options, which stands before every error about
the command line, and the help with a line or two for each option.
-/

namespace TraceAutomata.CommandLine

/-- The name of the program. -/
def programName : String := "trace2nta"

/-- A text indented by a number of blanks. -/
def indented (width : Nat) (text : String) : String :=
  String.ofList (List.replicate width ' ') ++ text

/-- The levels as the values that an option accepts. -/
def levelChoices : String :=
  "\x7b" ++ ",".intercalate (Level.all.map Level.name) ++ "\x7d"

/-- The placeholder of an option's value. -/
def placeholder : Flag → Option String
  | .output => some "OUTPUT"
  | .config => some "CONFIG"
  | .templateName => some "TEMPLATE_NAME"
  | .logLevel => some levelChoices
  | _ => none

/-- A name with the placeholder of its value. -/
def nameWithPlaceholder (flag : Flag) (name : String) : String :=
  name ++ ((placeholder flag).map (" " ++ ·)).getD ""

/-- An option in the summary, by its first name. -/
def summaryEntry (flag : Flag) : String :=
  "[" ++ nameWithPlaceholder flag ((flag.names.head?).getD "") ++ "]"

/-- The lines of the summary: the options in groups that fit on a line, and the operand. -/
def summaryLines : List String :=
  let start := "usage: " ++ programName ++ " "
  let entries (flags : List Flag) : String := " ".intercalate (flags.map summaryEntry)
  [start ++ entries [.help, .output, .config, .templateName],
    indented start.length (entries [.dumpModel]),
    indented start.length (entries [.logLevel]),
    indented start.length "trace_file"]

/-- What an option does. -/
def explanation : Flag → String
  | .help => "show this help message and exit"
  | .output => "Output XML file (default: next to the trace)"
  | .config => "YAML configuration file"
  | .templateName => "Template name (default: trace name)"
  | .dumpModel => "Also write the model as YAML"
  | .logLevel => "Logging level"

/-- The column of explanations. -/
def explanationColumn : Nat := 24

/-- An entry with its explanation: on its line if the entry ends two columns before the explanation
begins, else on the next line. -/
def explainedLines (entry what : String) : List String :=
  if entry.length + 2 ≤ explanationColumn then
    [entry ++ indented (explanationColumn - entry.length) what]
  else [entry, indented explanationColumn what]

/-- The lines of the help on an option. -/
def flagLines (flag : Flag) : List String :=
  let entry := ", ".intercalate (flag.names.map (nameWithPlaceholder flag))
  explainedLines (indented 2 entry) (explanation flag)

/-- The lines of the help. -/
def helpLines : List String :=
  summaryLines
    ++ ["", "Generate a UPPAAL timed-automaton model from a statement trace", "",
      "positional arguments:"]
    ++ explainedLines (indented 2 "trace_file") "Input trace file (YAML or JSON)"
    ++ ["", "options:"]
    ++ Flag.all.flatMap flagLines

/-- The help. -/
def help : String :=
  Text.ofLines helpLines

/-- What is written about an error on the command line. -/
def complaint [Runtime] (error : UsageError) : String :=
  Text.ofLines (summaryLines ++ [programName ++ ": error: " ++ error.message])

end TraceAutomata.CommandLine
