import TraceAutomata.Yaml.Style

/-!
# Folded texts

The three styles of a text as it is written from a column on. A long text is folded: a single blank right of
the line width becomes a line break, and between double quotes a backslash ends the line. The width is left
out where a text must stay on its line.
-/

namespace TraceAutomata.Yaml

/-- Whether a text is folded at a column, which then is beyond its width. A text without a width is never
folded. -/
def isBeyond (width : Option Nat) (column : Nat) : Bool :=
  width.any (· < column)

/-- The start of a line whose text begins at a column. -/
def lineStart (column : Nat) : List Char :=
  '\n' :: List.replicate column ' '

/-- Whether two neighbours belong to one run: both blanks, both breaks, or both neither. -/
def sameRun (left right : Char) : Bool :=
  (left == ' ') == (right == ' ') && (left == '\n') == (right == '\n')

/-- Write runs of blanks, breaks and other characters from a column on. A single blank between other
runs is where a line can be folded; breaks are doubled at their start, because the first of them is read
as a blank. `indent` is the column of further lines. -/
def foldedRuns (width : Option Nat) (indent : Nat) (isFirst : Bool) (column : Nat) :
    List (List Char) → List Char
  | [] => []
  | run :: rest =>
    if run.head? == some '\n' then
      List.replicate run.length '\n' ++ lineStart indent ++ foldedRuns width indent false indent rest
    else if run == [' '] && isBeyond width column && !isFirst && !rest.isEmpty then
      lineStart indent ++ foldedRuns width indent false indent rest
    else run ++ foldedRuns width indent false (column + run.length) rest

/-- A text in runs, each as it is written. -/
def runsOf (written : Char → List Char) (text : List Char) : List (List Char) :=
  (text.splitBy sameRun).map fun run => run.flatMap written

/-- A text in plain style. -/
def plainText (width : Option Nat) (indent column : Nat) (text : List Char) : List Char :=
  foldedRuns width indent true column (runsOf (fun character => [character]) text)

/-- A character between single quotes: the quote itself is written twice. -/
def singleQuotedChar (character : Char) : List Char :=
  if character == Char.ofNat 0x27 then [character, character] else [character]

/-- A text between single quotes. -/
def singleQuotedText (width : Option Nat) (indent column : Nat) (text : List Char) : List Char :=
  Char.ofNat 0x27 :: foldedRuns width indent true (column + 1) (runsOf singleQuotedChar text)
    ++ [Char.ofNat 0x27]

/-- A line break between double quotes that is not part of the text. -/
def continued (indent : Nat) : List Char :=
  '\\' :: lineStart indent

section DoubleQuoted

variable [Runtime]

/-- Write characters between double quotes from a column on. A line is folded beyond the width before a
blank, before the first character after an escape, and after an escape; never before the second and
never at the last character. A blank at the start of a line is escaped, because blanks there are not
part of the text. -/
def foldedEscapes (width : Option Nat) (indent : Nat) (isFirst afterEscape : Bool) (column : Nat) :
    List Char → List Char
  | [] => []
  | character :: rest =>
    let mayFold := !isFirst && !rest.isEmpty
    match escape? character with
    | some escape =>
      if mayFold && isBeyond width (column + escape.length - 1) then
        let opening := if rest.head? == some ' ' then ['\\'] else []
        escape ++ continued indent ++ opening
          ++ foldedEscapes width indent false true (indent + opening.length) rest
      else escape ++ foldedEscapes width indent false true (column + escape.length) rest
    | none =>
      if mayFold && (character == ' ' || afterEscape) && isBeyond width column then
        let opening := if character == ' ' then ['\\', ' '] else [character]
        continued indent ++ opening
          ++ foldedEscapes width indent false false (indent + opening.length) rest
      else character :: foldedEscapes width indent false false (column + 1) rest

/-- A text between double quotes. -/
def doubleQuotedText (width : Option Nat) (indent column : Nat) (text : List Char) : List Char :=
  '"' :: foldedEscapes width indent true false (column + 1) text ++ ['"']

end DoubleQuoted

/-- The lines of a text, each from a column on. -/
def blockText (indent : Nat) (startsLine : Bool) : List Char → List Char
  | [] => []
  | first :: rest =>
    (if startsLine then List.replicate indent ' ' else [])
      ++ first :: blockText indent (first == '\n') rest

/-- A text in its style, from a column on. -/
def styledText [Runtime] (width : Option Nat) (indent column : Nat) (text : List Char) : List Char :=
  match Style.ofText text with
  | .plain => plainText width indent column text
  | .singleQuoted => singleQuotedText width indent column text
  | .doubleQuoted => doubleQuotedText width indent column text

end TraceAutomata.Yaml
