/-!
# Runs of case mappings

Letters that stand in a row have their other case in a row too, so a table of case mappings is a table of
runs with one distance each.
-/

namespace TraceAutomata.Text

/-- A run of code points `first, first + stride, …, last` that all map to the code point `shift` away. -/
structure CaseRun where
  first : Nat
  last : Nat
  stride : Nat
  shift : Int

/-- Whether the run maps this code point. -/
def CaseRun.covers (run : CaseRun) (codePoint : Nat) : Bool :=
  run.first ≤ codePoint && codePoint ≤ run.last && (codePoint - run.first) % run.stride == 0

end TraceAutomata.Text
