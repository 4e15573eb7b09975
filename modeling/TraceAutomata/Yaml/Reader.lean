import TraceAutomata.Yaml.Graph.Reader
import TraceAutomata.Yaml.Unfolding

/-!
# Reading documents

The value that a document writes. The form of the whole text is checked before any value is built, so a
fault of the form is reported first.
-/

namespace TraceAutomata.Yaml

variable [Runtime]

/-- The value that the text of a source writes; a text without a document writes null. -/
def readSource (source : Source) : Except Fault Value := do
  let (graph, root) ← Graph.ofSource source
  match root with
  | none => return .null
  | some number => graph.valueOf number

/-- The value that a text writes. -/
def read (text : String) : Except Fault Value :=
  readSource (.whole text)

end TraceAutomata.Yaml
