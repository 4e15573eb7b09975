/-!
# The pen

What the writing of a document has come to: the text so far, the column, and what stands right before the
column. Indicators keep a blank from what is before them, and a line is ended only where something other than
indicators and blanks stands on it.
-/

namespace TraceAutomata.Yaml

/-- The state of writing. `reversed` is the text so far with its last character first; `afterBlank` says that
a blank or a line break comes right before, and `onlyIndicators` that the line has nothing but blanks and
indicators on it; `begun` has the labels of the values that are written after their anchors. -/
structure Pen where
  reversed : List Char := []
  column : Nat := 0
  afterBlank : Bool := true
  onlyIndicators : Bool := true
  begun : List Nat := []

namespace Pen

/-- The text so far. -/
def text (pen : Pen) : List Char :=
  pen.reversed.reverse

/-- The column after some characters that are written from a column on. -/
def columnAfter (column : Nat) : List Char → Nat
  | [] => column
  | '\n' :: rest => columnAfter 0 rest
  | _ :: rest => columnAfter (column + 1) rest

/-- Write characters. -/
def put (pen : Pen) (characters : List Char) : Pen :=
  { pen with
    reversed := characters.reverse ++ pen.reversed
    column := columnAfter pen.column characters }

/-- End the line. -/
def lineBreak (pen : Pen) : Pen :=
  { pen.put ['\n'] with afterBlank := true, onlyIndicators := true }

/-- Go to a column of a line that holds nothing but indicators before it; if the line at hand does not do, a
new one is begun. -/
def indentTo (pen : Pen) (column : Nat) : Pen :=
  let fits := pen.onlyIndicators
    && (pen.column < column || (pen.column == column && pen.afterBlank))
  let start := if fits then pen else pen.lineBreak
  if start.column < column then
    { start.put (List.replicate (column - start.column) ' ') with afterBlank := true }
  else start

/-- Write a blank unless one comes right before. -/
def keepBlank (pen : Pen) : Pen :=
  if pen.afterBlank then pen else { pen.put [' '] with afterBlank := true }

/-- Write an indicator that may have further indicators and their contents on its line. -/
def opening (pen : Pen) (indicator : Char) : Pen :=
  { pen.keepBlank.put [indicator] with afterBlank := false }

/-- Write the colon right after a key. -/
def colon (pen : Pen) : Pen :=
  { pen.put [':'] with afterBlank := false, onlyIndicators := false }

/-- Write a word, with a blank before it. -/
def word (pen : Pen) (characters : List Char) : Pen :=
  { pen.keepBlank.put characters with afterBlank := false, onlyIndicators := false }

/-- Write a sign that is followed by whole lines. -/
def block (pen : Pen) (indicator : Char) (lines : List Char) : Pen :=
  { pen.keepBlank.put (indicator :: '\n' :: lines) with afterBlank := true, onlyIndicators := true }

/-- Note that the value of a label is written after its anchor. -/
def begin (pen : Pen) (label : Nat) : Pen :=
  { pen with begun := label :: pen.begun }

end Pen

end TraceAutomata.Yaml
