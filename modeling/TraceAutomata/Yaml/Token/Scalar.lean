import TraceAutomata.Yaml.Token

/-!
# The texts of scalars

How the text of a scalar is read from its three written forms: plain, quoted, and as a block of lines.
Ends of lines inside plain and quoted scalars fold into blanks; blocks keep them or fold them.
-/

namespace TraceAutomata.Yaml

/-! ## Plain scalars -/

/-- The brackets and the comma, which end a plain scalar inside a flow collection. -/
def isFlowIndicator (character : Char) : Bool :=
  character == ',' || character == '[' || character == ']' || character == '\x7b'
    || character == '\x7d'

/-- Whether a plain scalar can start with the first of these characters. -/
def startsPlain (inFlow : Bool) (cursor : Cursor) : Bool :=
  match cursor.next? with
  | none => false
  | some first =>
    let followed := !endsToken (cursor.peek? 1)
    if isSpace first || isBreak first then false
    else if first == '-' then followed
    else if first == '?' || first == ':' then !inFlow && followed
    else !(isFlowIndicator first || first == '#' || first == '&' || first == '*' || first == '!'
      || first == '|' || first == '>' || first == '"' || first == '%' || first == '@'
      || first == Text.apostrophe || first.toNat == 0x60)

/-- The characters of a plain scalar up to a blank, a colon that ends it, or, inside a flow collection, an
indicator. -/
def plainRun (inFlow : Bool) : List Char → List Char
  | [] => []
  | character :: rest =>
    if isSpace character || isBreak character then []
    else if character == ':' && (endsToken rest.head? || (inFlow && rest.head?.any isFlowIndicator)) then
      []
    else if inFlow && (isFlowIndicator character || character == '?') then []
    else character :: plainRun inFlow rest

/-- Take the further line ends after the first inside a plain scalar, unless a mark between documents
follows one. -/
def plainBreaks : List Char → Cursor → Option (List Char) × Cursor
  | [], cursor => (some [], cursor)
  | _ :: bound, cursor =>
    match cursor.next? with
    | none => (some [], cursor)
    | some character =>
      if character == ' ' then plainBreaks bound cursor.advance
      else if isBreak character then
        let (taken, after) := cursor.takeBreak
        if after.atDocumentMark then (none, after)
        else
          let (more, last) := plainBreaks bound after
          (more.map (taken ++ ·), last)
      else (some [], cursor)

/-- What stands between two words of a plain scalar. `joint` is missing when the document ends there. -/
structure PlainGap where
  joint : Option (List Char)
  hasBreak : Bool
  after : Cursor

/-- Take what stands between two words of a plain scalar. -/
def plainGap (cursor : Cursor) : PlainGap :=
  let blanks := cursor.run (· == ' ')
  let afterBlanks := cursor.skipSpaces
  if afterBlanks.next?.any isBreak then
    let (taken, afterBreak) := afterBlanks.takeBreak
    if afterBreak.atDocumentMark then ⟨none, true, afterBreak⟩
    else
      let (more, after) := plainBreaks afterBreak.rest afterBreak
      let joint := more.map fun breaks =>
        (if taken != ['\n'] then taken else if breaks.isEmpty then [' '] else []) ++ breaks
      ⟨joint, true, after⟩
  else ⟨some blanks, false, afterBlanks⟩

/-- A plain scalar that was read, with the last character of its text first. `keyAllowed` says whether a key
may start after it. -/
structure PlainScalar where
  reversed : List Char
  keyAllowed : Bool
  after : Cursor

/-- The text of a plain scalar. -/
def PlainScalar.text (scalar : PlainScalar) : List Char :=
  scalar.reversed.reverse

/-- Read the words of a plain scalar one after another. In block context a line that is indented by less
than `indent` does not belong to it. -/
def plainWords (inFlow : Bool) (indent : Nat) :
    List Char → PlainScalar → List Char → PlainScalar
  | [], scalar, _ => scalar
  | _ :: bound, scalar, joint =>
    if scalar.after.next? == some '#' then scalar
    else
      let word := plainRun inFlow scalar.after.rest
      if word.isEmpty then scalar
      else
        let gap := plainGap (scalar.after.advanceBy word.length)
        let longer : PlainScalar := ⟨word.reverse ++ (joint.reverse ++ scalar.reversed), gap.hasBreak, gap.after⟩
        match gap.joint with
        | none => longer
        | some between =>
          if between.isEmpty || gap.after.next? == some '#'
              || (!inFlow && gap.after.column < indent) then longer
          else plainWords inFlow indent bound longer between

/-- Read a plain scalar. -/
def readPlain (inFlow : Bool) (indent : Nat) (cursor : Cursor) : PlainScalar :=
  plainWords inFlow indent cursor.rest ⟨[], false, cursor⟩ []

/-! ## Quoted scalars -/

/-- The character that a letter after a backslash stands for. -/
def escapedChar? (letter : Char) : Option Char :=
  match letter with
  | '0' => some (Char.ofNat 0)
  | 'a' => some (Char.ofNat 0x07)
  | 'b' => some (Char.ofNat 0x08)
  | 't' => some '\t'
  | '\t' => some '\t'
  | 'n' => some '\n'
  | 'v' => some (Char.ofNat 0x0B)
  | 'f' => some (Char.ofNat 0x0C)
  | 'r' => some '\r'
  | 'e' => some (Char.ofNat 0x1B)
  | ' ' => some ' '
  | '"' => some '"'
  | '/' => some '/'
  | '\\' => some '\\'
  | 'N' => some (Char.ofNat 0x85)
  | '_' => some (Char.ofNat 0xA0)
  | 'L' => some (Char.ofNat 0x2028)
  | 'P' => some (Char.ofNat 0x2029)
  | _ => none

/-- The number of hexadecimal digits after a letter that introduces a code point. -/
def codePointDigits? (letter : Char) : Option Nat :=
  match letter with
  | 'x' => some 2
  | 'u' => some 4
  | 'U' => some 8
  | _ => none

/-- Take the hexadecimal digits of a code point. -/
def takeCodePoint (count : Nat) (cursor : Cursor) : Except Fault (Nat × Cursor) :=
  let digits := cursor.rest.take count
  if digits.length == count && digits.all Text.isHexDigit then
    let codePoint := Text.ofDigits 16 digits
    if 0x7FFFFFFF < codePoint then .error (.value .codePointTooLong)
    else if 0x10FFFF < codePoint then .error (.value .codePointOutOfRange)
    else .ok (codePoint, cursor.advanceBy count)
  else .error (cursor.advanceBy (digits.takeWhile Text.isHexDigit).length).malformed

/-- Take the line ends that follow the first one inside a quoted scalar, with the blanks around them. A
mark between documents is refused at the start of each line. -/
def quotedBreaks : List Char → Cursor → Except Fault (List Char × Cursor)
  | [], cursor => if cursor.atDocumentMark then .error cursor.malformed else .ok ([], cursor)
  | _ :: bound, cursor =>
    if cursor.atDocumentMark then .error cursor.malformed
    else
      let afterBlanks := cursor.skipWhile isSpace
      if afterBlanks.next?.any isBreak then do
        let (taken, afterBreak) := afterBlanks.takeBreak
        let (more, after) ← quotedBreaks bound afterBreak
        return (taken ++ more, after)
      else .ok ([], afterBlanks)

variable [Runtime]

/-- Take an escape after its backslash: the characters it stands for. An escaped end of a line stands for
the empty lines after it. -/
def takeEscape (cursor : Cursor) : Except Fault (List Char × Cursor) :=
  match cursor.next? with
  | none => .error cursor.malformed
  | some letter =>
    match escapedChar? letter with
    | some meant => .ok ([meant], cursor.advance)
    | none =>
      match codePointDigits? letter with
      | some count => do
        let (codePoint, after) ← takeCodePoint count cursor.advance
        return ([Runtime.character codePoint], after)
      | none =>
        if isBreak letter then
          let (_, after) := cursor.takeBreak
          quotedBreaks after.rest after
        else .error cursor.malformed

/-- Take the blanks here inside a quoted scalar: as they are, or folded when a line ends in them. -/
def takeQuotedBlanks (cursor : Cursor) : Except Fault (List Char × Cursor) :=
  let blanks := cursor.run isSpace
  let afterBlanks := cursor.skipWhile isSpace
  match afterBlanks.next? with
  | none => .error afterBlanks.malformed
  | some character =>
    if isBreak character then do
      let (taken, afterBreak) := afterBlanks.takeBreak
      let (breaks, after) ← quotedBreaks afterBreak.rest afterBreak
      let joint := if taken != ['\n'] then taken else if breaks.isEmpty then [' '] else []
      return (joint ++ breaks, after)
    else .ok (blanks, afterBlanks)

/-- Read a quoted scalar after its opening quote. `read` holds the characters so far, last first. -/
def readQuotedFrom (isDouble : Bool) :
    List Char → List Char → Cursor → Except Fault (List Char × Cursor)
  | [], _, cursor => .error cursor.malformed
  | _ :: bound, read, cursor =>
    match cursor.next? with
    | none => .error cursor.malformed
    | some character =>
      if isSpace character || isBreak character then do
        let (blanks, after) ← takeQuotedBlanks cursor
        readQuotedFrom isDouble bound (blanks.reverse ++ read) after
      else if isDouble then
        if character == '"' then .ok (read.reverse, cursor.advance)
        else if character == '\\' then do
          let (meant, after) ← takeEscape cursor.advance
          readQuotedFrom isDouble bound (meant.reverse ++ read) after
        else readQuotedFrom isDouble bound (character :: read) cursor.advance
      else if character == Text.apostrophe then
        if cursor.peek? 1 == some Text.apostrophe then
          readQuotedFrom isDouble bound (character :: read) (cursor.advanceBy 2)
        else .ok (read.reverse, cursor.advance)
      else readQuotedFrom isDouble bound (character :: read) cursor.advance

/-- Read a quoted scalar from its opening quote on. -/
def readQuoted (isDouble : Bool) (cursor : Cursor) : Except Fault (List Char × Cursor) :=
  readQuotedFrom isDouble cursor.rest [] cursor.advance

/-! ## Block scalars -/

/-- What becomes of the line ends at the end of a block. -/
inductive Chomping
  | clip
  | strip
  | keep
  deriving DecidableEq

/-- What the header of a block says. -/
structure BlockHeader where
  chomping : Chomping := .clip
  increment : Option Nat := none

/-- Take a chomping indicator, if one is here. -/
def takeChomping (cursor : Cursor) : Option Chomping × Cursor :=
  match cursor.next? with
  | some '+' => (some .keep, cursor.advance)
  | some '-' => (some .strip, cursor.advance)
  | _ => (none, cursor)

/-- Take an indentation indicator, if one is here. Zero is refused. -/
def takeIncrement (cursor : Cursor) : Except Fault (Option Nat × Cursor) :=
  match cursor.next? with
  | none => .ok (none, cursor)
  | some digit =>
    if '0' ≤ digit && digit ≤ '9' then
      if digit == '0' then .error cursor.malformed
      else .ok (some (digit.toNat - '0'.toNat), cursor.advance)
    else .ok (none, cursor)

/-- Pass over the blanks and the comment that may end a line, and over its end. -/
def finishLine (cursor : Cursor) : Except Fault Cursor :=
  let atEnd := cursor.skipSpaces.skipComment
  if endsLine atEnd.next? then .ok atEnd.takeBreak.2 else .error atEnd.malformed

/-- Take the header of a block: the two indicators in either order, and the rest of the line. -/
def takeBlockHeader (cursor : Cursor) : Except Fault (BlockHeader × Cursor) := do
  let (chompingFirst, afterFirst) := takeChomping cursor
  let (increment, afterIncrement) ← takeIncrement afterFirst
  let (chompingLast, afterLast) :=
    if chompingFirst.isNone && increment.isSome then takeChomping afterIncrement
    else (none, afterIncrement)
  if endsWord afterLast.next? then
    let after ← finishLine afterLast
    return (⟨(chompingFirst.or chompingLast).getD .clip, increment⟩, after)
  else throw afterLast.malformed

/-- Take the empty lines at the start of a block without an indentation indicator: their ends, and the
greatest column that their blanks reach. -/
def leadingLines : List Char → Nat → Cursor → List Char × Nat × Cursor
  | [], widest, cursor => ([], widest, cursor)
  | _ :: bound, widest, cursor =>
    match cursor.next? with
    | none => ([], widest, cursor)
    | some character =>
      if character == ' ' then
        let after := cursor.advance
        leadingLines bound (max widest after.column) after
      else if isBreak character then
        let (taken, after) := cursor.takeBreak
        let (more, reached, last) := leadingLines bound widest after
        (taken ++ more, reached, last)
      else ([], widest, cursor)

/-- Pass over at most the indentation of a line. -/
def skipIndent (indent : Nat) (cursor : Cursor) : Cursor :=
  cursor.advanceBy (min (indent - cursor.column) (cursor.run (· == ' ')).length)

/-- Take the empty lines inside a block. -/
def emptyLines (indent : Nat) : List Char → Cursor → List Char × Cursor
  | [], cursor => ([], skipIndent indent cursor)
  | _ :: bound, cursor =>
    let start := skipIndent indent cursor
    if start.next?.any isBreak then
      let (taken, after) := start.takeBreak
      let (more, last) := emptyLines indent bound after
      (taken ++ more, last)
    else ([], start)

/-- Read the lines of a block after what was read before, last character first. `breaks` are the ends of the
empty lines before the current one. -/
def blockLines (folded : Bool) (chomping : Chomping) (indent : Nat) :
    List Char → List Char → List Char → Cursor → List Char × Cursor
  | [], read, _, cursor => (read.reverse, cursor)
  | _ :: bound, read, breaks, cursor =>
    let startsFull := !cursor.next?.any isSpace
    let line := cursor.run fun character => !isBreak character
    let (lineEnd, afterLine) := (cursor.advanceBy line.length).takeBreak
    let (empty, start) := emptyLines indent afterLine.rest afterLine
    let readOn := line.reverse ++ (breaks.reverse ++ read)
    if start.column == indent && start.next?.isSome then
      let folds := folded && lineEnd == ['\n'] && startsFull && !start.next?.any isSpace
      let joint := if folds then (if empty.isEmpty then [' '] else []) else lineEnd
      blockLines folded chomping indent bound (joint.reverse ++ readOn) empty start
    else
      let kept :=
        match chomping with
        | .strip => []
        | .clip => lineEnd
        | .keep => lineEnd ++ empty
      (readOn.reverse ++ kept, start)

/-- Read a block from its indicator on. `parentIndent` is the column of the collection it stands in. -/
def readBlock (folded : Bool) (parentIndent : Int) (cursor : Cursor) :
    Except Fault (List Char × Cursor) := do
  let (header, body) ← takeBlockHeader cursor.advance
  let least := (max (parentIndent + 1) 1).toNat
  let (breaks, indent, start) :=
    match header.increment with
    | none =>
      let (breaks, widest, start) := leadingLines body.rest 0 body
      (breaks, max least widest, start)
    | some increment =>
      let indent := least + increment - 1
      let (breaks, start) := emptyLines indent body.rest body
      (breaks, indent, start)
  if start.column == indent && start.next?.isSome then
    return blockLines folded header.chomping indent start.rest [] breaks start
  else
    match header.chomping with
    | .keep => return (breaks, start)
    | _ => return ([], start)

end TraceAutomata.Yaml
