import TraceAutomata.Yaml.Source
import TraceAutomata.Yaml.Token.Scalar

/-!
# From characters to tokens

Tokens are taken from a text one after another, and no further than the next token needs: what is wrong
later in a text is found later. Two things are only known later than they are written: a deeper indentation
opens a block collection that a lesser one closes, and a scalar turns out to be a key when a colon follows
it on the same line. For the second the places where a key may have started are remembered, one at each
level of flow brackets, and tokens from such a place on are held back until it is settled.
-/

namespace TraceAutomata.Yaml

/-- A place where a key may have started, before the token of a number. It must turn out to be one if it
stands at the indentation of its block. -/
structure KeyPlace where
  number : Nat
  required : Bool
  index : Nat
  line : Nat
  column : Nat

/-- The state between two tokens. `pending` has the tokens that are read but not yet given out, and `given`
is the number of those that are; `indents` has the enclosing indentations innermost first, and `places` one
place for each level of flow brackets, innermost first. -/
structure Lexer where
  cursor : Cursor
  pending : List Token := []
  given : Nat := 0
  indent : Int := -1
  indents : List Int := []
  keyAllowed : Bool := true
  places : List (Option KeyPlace) := [none]
  atEnd : Bool := false

namespace Lexer

/-- Whether the pass is inside flow brackets. -/
def inFlow (lexer : Lexer) : Bool :=
  1 < lexer.places.length

/-- The number of the token that is read next. -/
def nextNumber (lexer : Lexer) : Nat :=
  lexer.given + lexer.pending.length

/-- Add a token at the end. -/
def push (lexer : Lexer) (token : Token) : Lexer :=
  { lexer with pending := lexer.pending ++ [token] }

/-- Add a token and pass over some characters. -/
def pushOver (lexer : Lexer) (token : Token) (width : Nat) : Lexer :=
  { lexer.push token with cursor := lexer.cursor.advanceBy width }

/-- Put a token before the one of a number. -/
def insertBefore (lexer : Lexer) (number : Nat) (token : Token) : Lexer :=
  let earlier := lexer.pending.take (number - lexer.given)
  let later := lexer.pending.drop (number - lexer.given)
  { lexer with pending := earlier ++ token :: later }

/-- Close the block collections that are indented by more than a column. -/
def closeBlocks (lexer : Lexer) (column : Int) : Lexer :=
  if lexer.inFlow then lexer else go lexer.indents lexer
where
  go : List Int → Lexer → Lexer
    | [], current => current
    | outer :: rest, current =>
      if column < current.indent then
        go rest { current.push .blockEnd with indent := outer, indents := rest }
      else current

/-- Note a deeper indentation, if the column is one. -/
def deepen? (lexer : Lexer) (column : Nat) : Option Lexer :=
  if lexer.indent < column then
    some { lexer with indent := column, indents := lexer.indent :: lexer.indents }
  else none

/-- Open a block collection where the cursor stands, if it is a deeper indentation. -/
def openBlock (lexer : Lexer) (token : Token) : Lexer :=
  match lexer.deepen? lexer.cursor.column with
  | some deeper => deeper.push token
  | none => lexer

/-- Forget the place of a possible key at the current level. A required key cannot be forgotten. -/
def dropPlace (lexer : Lexer) : Except Fault Lexer :=
  match lexer.places with
  | some place :: outer =>
    if place.required then .error lexer.cursor.malformed else .ok { lexer with places := none :: outer }
  | _ => .ok lexer

/-- Remember that a key may start here. -/
def markPlace (lexer : Lexer) : Except Fault Lexer :=
  if lexer.keyAllowed then do
    let cleared ← lexer.dropPlace
    let place : KeyPlace :=
      { number := lexer.nextNumber
        required := !lexer.inFlow && lexer.indent == (lexer.cursor.column : Int)
        index := lexer.cursor.index
        line := lexer.cursor.line
        column := lexer.cursor.column }
    return { cleared with places := some place :: cleared.places.drop 1 }
  else .ok lexer

/-- A possible key is out of reach on another line, or more than 1024 characters on. -/
def KeyPlace.outOfReach (place : KeyPlace) (cursor : Cursor) : Bool :=
  place.line != cursor.line || place.index + 1024 < cursor.index

/-- Forget, at every level, the place of a possible key that is out of reach. -/
def dropStalePlaces (lexer : Lexer) : Except Fault Lexer := do
  let isStale (place : KeyPlace) : Bool := KeyPlace.outOfReach place lexer.cursor
  if lexer.places.any fun place? => place?.any fun place => isStale place && place.required then
    throw lexer.cursor.malformed
  return { lexer with
    places := lexer.places.map fun place? => place?.filter fun place => !isStale place }

/-- Pass over blanks, comments and ends of lines. In block context a key may start on a new line. -/
def skipToToken (lexer : Lexer) : Lexer :=
  let start :=
    if lexer.cursor.index == 0 && lexer.cursor.next?.any (fun first => first.toNat == 0xFEFF) then
      lexer.cursor.advance
    else lexer.cursor
  go start.rest { lexer with cursor := start }
where
  go : List Char → Lexer → Lexer
    | [], current => { current with cursor := current.cursor.skipSpaces.skipComment }
    | _ :: bound, current =>
      let atEnd := current.cursor.skipSpaces.skipComment
      if atEnd.next?.any isBreak then
        go bound { current with
          cursor := atEnd.takeBreak.2
          keyAllowed := current.keyAllowed || !current.inFlow }
      else { current with cursor := atEnd }

/-! ## Directives and marks -/

/-- Leave every block before something that stands between documents. -/
def leaveDocument (lexer : Lexer) : Except Fault Lexer := do
  let cleared ← (lexer.closeBlocks (-1)).dropPlace
  return { cleared with keyAllowed := false }

/-- Take a row of digits. -/
def takeNumber (cursor : Cursor) : Except Fault (Nat × Cursor) :=
  let digits := cursor.run Char.isDigit
  let after := cursor.advanceBy digits.length
  if digits.isEmpty then .error cursor.malformed
  else if Text.digitLimit < digits.length then
    .error (after.blocked?.getD (.value (.integerTooLong digits.length)))
  else .ok (Text.ofDigits 10 digits, after)

/-- Take a handle of tags: an exclamation mark, or a name between two. -/
def takeHandle (cursor : Cursor) : Except Fault (String × Cursor) :=
  if cursor.next? != some '!' then .error cursor.malformed
  else
    let name := cursor.advance.run isNameChar
    let afterName := cursor.advanceBy (name.length + 1)
    if name.isEmpty && afterName.next? == some ' ' then .ok ("!", afterName)
    else if afterName.next? == some '!' then
      .ok (String.ofList ('!' :: name ++ ['!']), afterName.advance)
    else .error afterName.malformed

/-- Whether a character stands for itself in the name of a tag. -/
def isTagChar (character : Char) : Bool :=
  character.isAlphanum || "-;/?:@&=+$,_.!~*()[]".toList.contains character
    || character == Text.apostrophe

/-- Take bytes that are each written as a percent sign and two hexadecimal digits. -/
def takeEscapedBytes : List Char → Cursor → Except Fault (List UInt8 × Cursor)
  | [], cursor => .ok ([], cursor)
  | _ :: bound, cursor =>
    match cursor.rest with
    | '%' :: high :: low :: _ =>
      if Text.isHexDigit high && Text.isHexDigit low then do
        let (more, after) ← takeEscapedBytes bound (cursor.advanceBy 3)
        return (UInt8.ofNat (Text.ofDigits 16 [high, low]) :: more, after)
      else .error cursor.malformed
    | '%' :: rest => .error (cursor.advanceBy (rest.takeWhile Text.isHexDigit).length).malformed
    | _ => .ok ([], cursor)

/-- Take the name of a tag, which may be empty here. -/
def takeTagChars : List Char → Cursor → Except Fault (List Char × Cursor)
  | [], cursor => .ok ([], cursor)
  | _ :: bound, cursor =>
    match cursor.next? with
    | some '%' => do
      let (bytes, after) ← takeEscapedBytes cursor.rest cursor
      match String.fromUTF8? ⟨bytes.toArray⟩ with
      | none => throw after.malformed
      | some decoded =>
        let (more, last) ← takeTagChars bound after
        return (decoded.toList ++ more, last)
    | some character =>
      if isTagChar character then do
        let (more, last) ← takeTagChars bound cursor.advance
        return (character :: more, last)
      else .ok ([], cursor)
    | none => .ok ([], cursor)

/-- Take the name of a tag. -/
def takeTagName (cursor : Cursor) : Except Fault (String × Cursor) := do
  let (name, after) ← takeTagChars cursor.rest cursor
  if name.isEmpty then throw after.malformed
  return (String.ofList name, after)

/-- Take the version after its directive's name. -/
def takeVersion (cursor : Cursor) : Except Fault (Token × Cursor) := do
  let (major, afterMajor) ← takeNumber cursor.skipSpaces
  if afterMajor.next? != some '.' then throw afterMajor.malformed
  let (_, afterMinor) ← takeNumber afterMajor.advance
  if endsWord afterMinor.next? then return (.versionDirective major, afterMinor)
  else throw afterMinor.malformed

/-- Take a handle and what it stands for after their directive's name. -/
def takeTagDirective (cursor : Cursor) : Except Fault (Token × Cursor) := do
  let (handle, afterHandle) ← takeHandle cursor.skipSpaces
  if afterHandle.next? != some ' ' then throw afterHandle.malformed
  let (beginning, after) ← takeTagName afterHandle.skipSpaces
  if endsWord after.next? then return (.tagDirective handle beginning, after)
  else throw after.malformed

/-- Take a directive, its line included. -/
def takeDirective (cursor : Cursor) : Except Fault (Token × Cursor) := do
  let name := cursor.advance.run isNameChar
  let afterName := cursor.advanceBy (name.length + 1)
  if name.isEmpty || !endsWord afterName.next? then throw afterName.malformed
  let (token, after) ←
    if name == "YAML".toList then takeVersion afterName
    else if name == "TAG".toList then takeTagDirective afterName
    else
      pure (Token.otherDirective, afterName.skipWhile fun character => !isBreak character)
  return (token, ← finishLine after)

/-! ## Tokens in order -/

/-- Take a directive. -/
def lexDirective (lexer : Lexer) : Except Fault Lexer := do
  let outside ← lexer.leaveDocument
  let (token, after) ← takeDirective outside.cursor
  return { outside.push token with cursor := after }

/-- Take a mark between documents. -/
def lexMark (lexer : Lexer) (token : Token) : Except Fault Lexer := do
  let outside ← lexer.leaveDocument
  return outside.pushOver token 3

/-- Take an opening bracket. -/
def lexOpening (lexer : Lexer) (token : Token) : Except Fault Lexer := do
  let marked ← lexer.markPlace
  return { marked.pushOver token 1 with places := none :: marked.places, keyAllowed := true }

/-- Take a closing bracket. -/
def lexClosing (lexer : Lexer) (token : Token) : Except Fault Lexer := do
  let cleared ← lexer.dropPlace
  let outer := if cleared.inFlow then cleared.places.drop 1 else cleared.places
  return { cleared.pushOver token 1 with places := outer, keyAllowed := false }

/-- Take a comma between members of a flow collection. -/
def lexFlowEntry (lexer : Lexer) : Except Fault Lexer := do
  let cleared ← { lexer with keyAllowed := true }.dropPlace
  return cleared.pushOver .flowEntry 1

/-- Take the dash of a block entry. -/
def lexBlockEntry (lexer : Lexer) : Except Fault Lexer := do
  if !lexer.inFlow && !lexer.keyAllowed then throw lexer.cursor.malformed
  let opened := if lexer.inFlow then lexer else lexer.openBlock .blockSequenceStart
  let cleared ← { opened with keyAllowed := true }.dropPlace
  return cleared.pushOver .blockEntry 1

/-- Take the question mark of a key. -/
def lexKey (lexer : Lexer) : Except Fault Lexer := do
  if !lexer.inFlow && !lexer.keyAllowed then throw lexer.cursor.malformed
  let opened := if lexer.inFlow then lexer else lexer.openBlock .blockMappingStart
  let cleared ← { opened with keyAllowed := !opened.inFlow }.dropPlace
  return cleared.pushOver .key 1

/-- Put the token of a key at the place where it turned out to have started, and open its mapping if that
is a deeper indentation. -/
def confirmKey (lexer : Lexer) (place : KeyPlace) : Lexer :=
  let keyed := lexer.insertBefore place.number .key
  let opened :=
    if keyed.inFlow then keyed
    else
      match keyed.deepen? place.column with
      | some deeper => deeper.insertBefore place.number .blockMappingStart
      | none => keyed
  { opened with places := none :: opened.places.drop 1, keyAllowed := false }

/-- Take the colon before a value. -/
def lexValue (lexer : Lexer) : Except Fault Lexer := do
  match lexer.places with
  | some place :: _ => return (lexer.confirmKey place).pushOver .value 1
  | _ =>
    if !lexer.inFlow && !lexer.keyAllowed then throw lexer.cursor.malformed
    let opened := if lexer.inFlow then lexer else lexer.openBlock .blockMappingStart
    let cleared ← { opened with keyAllowed := !opened.inFlow }.dropPlace
    return cleared.pushOver .value 1

/-- Remember that a key may start here, but that none may start right after. -/
def beginNode (lexer : Lexer) : Except Fault Lexer := do
  let marked ← lexer.markPlace
  return { marked with keyAllowed := false }

/-- Take the name of an alias or anchor after its sign. -/
def lexName (lexer : Lexer) (token : String → Token) : Except Fault Lexer := do
  let marked ← lexer.beginNode
  let name := marked.cursor.advance.run isNameChar
  let after := marked.cursor.advanceBy (name.length + 1)
  let ended := endsToken after.next? || after.next?.any fun character =>
    "?:,]%@".toList.contains character || character == '\x7d' || character.toNat == 0x60
  if name.isEmpty || !ended then throw after.malformed
  return { marked.push (token (String.ofList name)) with cursor := after }

/-- Take a tag as it is written. -/
def takeTag (cursor : Cursor) : Except Fault (TagText × Cursor) := do
  match cursor.peek? 1 with
  | some '<' =>
    let (name, after) ← takeTagName (cursor.advanceBy 2)
    if after.next? != some '>' then throw after.malformed
    return (⟨none, name⟩, after.advance)
  | next =>
    if endsToken next then return (⟨none, "!"⟩, cursor.advance)
    let word := cursor.advance.run fun character => character != ' ' && !isBreak character
    if word.contains '!' then
      let (handle, afterHandle) ← takeHandle cursor
      let (name, after) ← takeTagName afterHandle
      return (⟨some handle, name⟩, after)
    else
      let (name, after) ← takeTagName cursor.advance
      return (⟨some "!", name⟩, after)

/-- Take a tag. -/
def lexTag (lexer : Lexer) : Except Fault Lexer := do
  let marked ← lexer.beginNode
  let (written, after) ← takeTag marked.cursor
  if endsWord after.next? then return { marked.push (.tag written) with cursor := after }
  else throw after.malformed

/-- Take a block scalar. A key may start after it, but it is no key itself. -/
def lexBlockScalar (lexer : Lexer) (folded : Bool) : Except Fault Lexer := do
  let cleared ← { lexer with keyAllowed := true }.dropPlace
  let (text, after) ← readBlock folded cleared.indent cleared.cursor
  return { cleared.push (.scalar (String.ofList text) false) with cursor := after }

variable [Runtime]

/-- Take a quoted scalar. -/
def lexQuoted (lexer : Lexer) (isDouble : Bool) : Except Fault Lexer := do
  let marked ← lexer.beginNode
  let (text, after) ← readQuoted isDouble marked.cursor
  return { marked.push (.scalar (String.ofList text) false) with cursor := after }

/-- Take a plain scalar. -/
def lexPlain (lexer : Lexer) : Except Fault Lexer := do
  let marked ← lexer.beginNode
  let scalar := readPlain marked.inFlow (marked.indent + 1).toNat marked.cursor
  return { marked.push (.scalar (String.ofList scalar.text) true) with
    cursor := scalar.after
    keyAllowed := scalar.keyAllowed }

/-- Take the token that starts with a character, once the blocks it ends are closed. -/
def lexFrom (lexer : Lexer) (first : Char) : Except Fault Lexer :=
  let cursor := lexer.cursor
  let atLineStart := cursor.column == 0
  let followed := endsToken (cursor.peek? 1)
  if first == '%' && atLineStart then lexer.lexDirective
  else if atLineStart && cursor.hasMark ['-', '-', '-'] then lexer.lexMark .documentStart
  else if atLineStart && cursor.hasMark ['.', '.', '.'] then lexer.lexMark .documentEnd
  else if first == '[' then lexer.lexOpening .flowSequenceStart
  else if first == '\x7b' then lexer.lexOpening .flowMappingStart
  else if first == ']' then lexer.lexClosing .flowSequenceEnd
  else if first == '\x7d' then lexer.lexClosing .flowMappingEnd
  else if first == ',' then lexer.lexFlowEntry
  else if first == '-' && followed then lexer.lexBlockEntry
  else if first == '?' && (lexer.inFlow || followed) then lexer.lexKey
  else if first == ':' && (lexer.inFlow || followed) then lexer.lexValue
  else if first == '*' then lexer.lexName .alias
  else if first == '&' then lexer.lexName .anchor
  else if first == '!' then lexer.lexTag
  else if first == '|' && !lexer.inFlow then lexer.lexBlockScalar false
  else if first == '>' && !lexer.inFlow then lexer.lexBlockScalar true
  else if first == Text.apostrophe then lexer.lexQuoted false
  else if first == '"' then lexer.lexQuoted true
  else if startsPlain lexer.inFlow cursor then lexer.lexPlain
  else .error cursor.malformed

/-- Take the end of the text: the ends of all blocks and of the text itself. -/
def lexEnd (lexer : Lexer) : Except Fault Lexer := do
  let outside ← lexer.leaveDocument
  return { outside.push .streamEnd with places := [none], atEnd := true }

/-- A lexer that may go on: what its cursor looks at can be read. -/
def unblocked (lexer : Lexer) : Except Fault Lexer :=
  match lexer.cursor.blocked? with
  | some fault => .error fault
  | none => .ok lexer

/-- Read what comes next, which gives at least one token. -/
def lexNext (lexer : Lexer) : Except Fault Lexer := do
  let ready ← (← lexer.skipToToken.unblocked).dropStalePlaces
  let closed := ready.closeBlocks ready.cursor.column
  match closed.cursor.next? with
  | none => closed.lexEnd
  | some first => (← closed.lexFrom first).unblocked

/-- Whether a key may have started right before the first pending token. -/
def holdsBack (lexer : Lexer) : Bool :=
  lexer.places.any fun place? => place?.any fun place => place.number == lexer.given

/-- Read on until the first pending token can be given out. Each time at least one character is passed over
or the text ends, so the characters that remain bound the reading. -/
def settleWithin : List Char → Lexer → Except Fault Lexer
  | bound, lexer =>
    if lexer.atEnd then .ok lexer
    else do
      let current ← if lexer.pending.isEmpty then pure lexer else lexer.dropStalePlaces
      if !current.pending.isEmpty && !current.holdsBack then return current
      else
        let further ← current.lexNext
        match bound with
        | [] => return further
        | _ :: rest => settleWithin rest further

/-- Read on until the first pending token can be given out. -/
def settle (lexer : Lexer) : Except Fault Lexer :=
  settleWithin lexer.cursor.rest lexer

/-- The lexer after its first pending token is given out. -/
def give (lexer : Lexer) : Lexer :=
  { lexer with pending := lexer.pending.drop 1, given := lexer.given + 1 }

/-- The lexer at the start of a text. -/
def ofSource (source : Source) : Lexer :=
  { cursor := source.start }

end Lexer

end TraceAutomata.Yaml
