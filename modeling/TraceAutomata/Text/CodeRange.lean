/-!
# Ranges of code points

Properties of characters are given as tables of closed ranges.
-/

namespace TraceAutomata.Text

/-- Whether a code point lies in one of the closed ranges. -/
def inRanges (ranges : Array (Nat × Nat)) (codePoint : Nat) : Bool :=
  ranges.any fun range => range.1 ≤ codePoint && codePoint ≤ range.2

end TraceAutomata.Text
