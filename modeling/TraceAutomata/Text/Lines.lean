/-!
# Lines

A text as lines, every one of which is ended by a line feed.
-/

namespace TraceAutomata.Text

/-- Lines one after another, each ended by a line feed. -/
def ofLines (lines : List String) : String :=
  String.join (lines.map fun line => line ++ "\n")

end TraceAutomata.Text
