import TraceAutomata.Text.Base64
import TraceAutomata.Yaml.Anchor
import TraceAutomata.Yaml.Folding
import TraceAutomata.Yaml.Pen

/-!
# Writing documents

A value in block layout: a line for every scalar, list members after dashes that stand under their key,
mappings two columns further in. A pair is written as a list; bytes and sets, which have no notation of their
own, are told by tags from texts and mappings. A key that is long, empty or of several lines stands after a
question mark, with its value on the next line; every other key is not folded. Values that stand in several places
have anchors.
-/

namespace TraceAutomata.Yaml

/-- A numeral with a point before its exponent, as a float needs one to be read as a float. -/
def pointedNumeral (numeral : List Char) : List Char :=
  if numeral.contains '.' then numeral
  else
    numeral.takeWhile (· != 'e') ++ (if numeral.contains 'e' then ['.', '0'] else [])
      ++ numeral.dropWhile (· != 'e')

/-- A float. -/
def floatText : Binary64 → List Char
  | .infinite negative => if negative then ['-', '.', 'i', 'n', 'f'] else ['.', 'i', 'n', 'f']
  | .notANumber => ['.', 'n', 'a', 'n']
  | number => pointedNumeral number.text.toList

/-- The width of lines. -/
def lineWidth : Nat := 80

variable [Runtime]

/-- A scalar from a column on; further lines begin at the column `indent`. Values that are no scalars have no
such text. -/
def scalarText (width : Option Nat) (indent column : Nat) : Value → List Char
  | .null => ['n', 'u', 'l', 'l']
  | .boolean value => (if value then "true" else "false").toList
  | .integer value => (Text.signedDecimal value).toList
  | .float value => floatText value
  | .text value => styledText width indent column value.toList
  | .bytes value => Text.Base64.encodeLines value
  | .date value => plainText width indent column value.text.toList
  | .dateTime value => plainText width indent column value.text.toList
  | .pair _ _ => []
  | .list _ => []
  | .set _ => []
  | .mapping _ => []
  | .shared _ value => scalarText width indent column value

/-- The length of the short tag that names the kind of a scalar. -/
def tagLength : Value → Nat
  | .null => 6
  | .boolean _ => 6
  | .integer _ => 5
  | .float _ => 7
  | .text _ => 5
  | .bytes _ => 8
  | .date _ => 11
  | .dateTime _ => 11
  | .pair _ _ => 0
  | .list _ => 0
  | .set _ => 0
  | .mapping _ => 0
  | .shared _ value => tagLength value

/-- The characters of a scalar before any quoting. -/
def bareText (value : Value) : List Char :=
  match value.content with
  | .text own => own.toList
  | other => scalarText none 0 0 other

/-- Where the anchor of a value stands, if it has one. -/
def anchorLength (anchors : Anchors) : Value → Nat
  | .shared label _ => ((anchors.name? label).map String.length).getD 0
  | _ => 0

/-- Whether a value is written as the name of its anchor, because it stands in the text before. -/
def isNamed (anchors : Anchors) (pen : Pen) : Value → Bool
  | .shared label _ => (anchors.name? label).isSome && pen.begun.contains label
  | _ => false

/-- Whether a character ends a line of a text. -/
def endsTextLine (character : Char) : Bool :=
  character == '\n' || character.toNat == 0x85 || character.toNat == 0x2028
    || character.toNat == 0x2029

/-- The length from which on a key stands after a question mark. -/
def longKey : Nat := 128

/-- Whether a key is followed by its colon on the same line: it must be short, and unless it is only named it
must have a text of one line. -/
def isSimpleKey (anchors : Anchors) (pen : Pen) (key : Value) : Bool :=
  let bare := bareText key
  if isNamed anchors pen key then anchorLength anchors key < longKey
  else
    !bare.isEmpty && !bare.any endsTextLine
      && anchorLength anchors key + tagLength key + bare.length < longKey

/-- The column of the members of a collection that stands in one with its members at a column. -/
def indentBelow : Option Nat → Nat
  | none => 0
  | some indent => indent + 2

/-- The column of further lines of a scalar that stands in a collection. -/
def scalarIndent (parent : Option Nat) : Nat :=
  parent.getD 0 + 2

/-- The column of the members of a list. Under a key they stand where the key does. -/
def listIndent (parent : Option Nat) (underKey : Bool) (pen : Pen) : Nat :=
  if underKey && !pen.onlyIndicators then parent.getD 0 else indentBelow parent

/-- Write a tag. -/
def writeTag (name : String) (pen : Pen) : Pen :=
  pen.word ("!!" ++ name).toList

/-- Write bytes. -/
def writeBytes (indent : Nat) (bytes : List UInt8) (pen : Pen) : Pen :=
  let tagged := writeTag "binary" pen
  if bytes.isEmpty then tagged.word ['"', '"']
  else tagged.block '|' (blockText indent true (Text.Base64.encodeLines bytes))

/-- Write a scalar. -/
def writeScalar (width : Option Nat) (indent : Nat) (value : Value) (pen : Pen) : Pen :=
  let ready := pen.keepBlank
  ready.word (scalarText width indent ready.column value)

/-- Write a scalar after its anchor, or the name of the anchor where it stands in the text before. -/
def writeAnchored (anchors : Anchors) (width : Option Nat) (indent : Nat) : Value → Pen → Pen
  | .bytes bytes, pen => writeBytes indent bytes pen
  | .shared label value, pen =>
    match anchors.name? label with
    | none => writeAnchored anchors width indent value pen
    | some name =>
      if pen.begun.contains label then pen.word ('*' :: name.toList)
      else writeAnchored anchors width indent value ((pen.word ('&' :: name.toList)).begin label)
  | scalar, pen => writeScalar width indent scalar pen

/-- Write a key with its colon. Only scalars are keys. -/
def writeKey (anchors : Anchors) (indent : Nat) (key : Value) (pen : Pen) : Pen :=
  let further := scalarIndent (some indent)
  if isSimpleKey anchors pen key then (writeAnchored anchors none further key pen).colon
  else
    let written := writeAnchored anchors (some lineWidth) further key (pen.opening '?')
    (written.indentTo indent).opening ':'

/-- Write the members of a set, which are keys without values. -/
def writeMembers (anchors : Anchors) (indent : Nat) (members : List Value) (pen : Pen) : Pen :=
  members.foldl (fun current member =>
    writeScalar none indent .null (writeKey anchors indent member (current.indentTo indent))) pen

mutual

/-- Write a value that stands in a collection with its members at the column `parent`. -/
def writeValue (anchors : Anchors) (parent : Option Nat) (underKey : Bool) :
    Value → Pen → Pen
  | .bytes bytes, pen => writeBytes (scalarIndent parent) bytes pen
  | .pair first second, pen =>
    let indent := listIndent parent underKey pen
    let afterFirst := writeValue anchors (some indent) false first ((pen.indentTo indent).opening '-')
    writeValue anchors (some indent) false second ((afterFirst.indentTo indent).opening '-')
  | .list items, pen =>
    if items.isEmpty then pen.word ['[', ']']
    else writeItems anchors (listIndent parent underKey pen) items pen
  | .set items, pen =>
    let tagged := writeTag "set" pen
    if items.isEmpty then tagged.word ['\x7b', '\x7d']
    else writeMembers anchors (indentBelow parent) items tagged
  | .mapping entries, pen =>
    if entries.isEmpty then pen.word ['\x7b', '\x7d']
    else writeEntries anchors (indentBelow parent) entries pen
  | .shared label value, pen =>
    match anchors.name? label with
    | none => writeValue anchors parent underKey value pen
    | some name =>
      if pen.begun.contains label then pen.word ('*' :: name.toList)
      else
        writeValue anchors parent underKey value ((pen.word ('&' :: name.toList)).begin label)
  | scalar, pen => writeScalar (some lineWidth) (scalarIndent parent) scalar pen

/-- Write the members of a list, each after a dash. -/
def writeItems (anchors : Anchors) (indent : Nat) : List Value → Pen → Pen
  | [], pen => pen
  | item :: rest, pen =>
    let ready := (pen.indentTo indent).opening '-'
    writeItems anchors indent rest (writeValue anchors (some indent) false item ready)

/-- Write the entries of a mapping. -/
def writeEntries (anchors : Anchors) (indent : Nat) : List (Value × Value) → Pen → Pen
  | [], pen => pen
  | (key, value) :: rest, pen =>
    let afterKey := writeKey anchors indent key (pen.indentTo indent)
    writeEntries anchors indent rest (writeValue anchors (some indent) true value afterKey)

end

/-- A value as a document, unless values stand within each other too deeply in it or it holds an integer of
too many digits. -/
def written (value : Value) : Except ValueFault String := do
  if value.hasOverlongInteger then throw .tooLongToWrite
  let anchors ← Anchors.ofValue value
  return String.ofList ((writeValue anchors none false value {}).indentTo 0).text

end TraceAutomata.Yaml
