import TraceAutomata.Document.ValueFault

/-!
# Writing JSON

A value as one line of JSON: a comma and a blank between neighbours, a colon and a blank after a key,
and every character outside printable ASCII escaped by its UTF-16 units. A surrogate is its own unit, so a high one
and a low one right after it are read as one character. `writtenSorted` orders every mapping by its keys first and
refuses what JSON cannot hold.
-/

namespace TraceAutomata.Json

/-- The escape of one UTF-16 unit. -/
def unitEscape (unit : Nat) : List Char :=
  '\\' :: 'u' :: (Text.lowerHex 4 unit).toList

section Strings

variable [Runtime]

/-- One character inside a string. -/
def writtenChar (character : Char) : List Char :=
  let codePoint := Runtime.codePoint character
  if character == '"' then ['\\', '"']
  else if character == '\\' then ['\\', '\\']
  else if character == '\n' then ['\\', 'n']
  else if character == '\r' then ['\\', 'r']
  else if character == '\t' then ['\\', 't']
  else if codePoint == 0x08 then ['\\', 'b']
  else if codePoint == 0x0C then ['\\', 'f']
  else if 0x20 ≤ codePoint && codePoint ≤ 0x7E then [character]
  else if codePoint ≤ 0xFFFF then unitEscape codePoint
  else
    let offset := codePoint - 0x10000
    unitEscape (0xD800 + offset / 0x400) ++ unitEscape (0xDC00 + offset % 0x400)

/-- A string between quotes. -/
def writtenString (text : String) : String :=
  "\"" ++ String.ofList (text.toList.flatMap writtenChar) ++ "\""

end Strings

/-- The word or numeral of a float. -/
def writtenFloat : Binary64 → String
  | .finite negative significand exponent => (Binary64.finite negative significand exponent).text
  | .infinite negative => if negative then "-Infinity" else "Infinity"
  | .notANumber => "NaN"

/-- The text of a key, if a value can be one: null, truth values and numbers as they are written elsewhere. -/
def keyText? (key : Value) : Option String :=
  match key.content with
  | .null => some "null"
  | .boolean value => some (if value then "true" else "false")
  | .integer value => some (Text.signedDecimal value)
  | .float value => some (writtenFloat value)
  | .text value => some value
  | _ => none

variable [Runtime]

mutual

/-- A value as JSON. Bytes, dates, times and sets are written as strings of their plain text, also as keys,
and pairs as lists. -/
def written : Value → String
  | .null => "null"
  | .boolean value => if value then "true" else "false"
  | .integer value => Text.signedDecimal value
  | .float value => writtenFloat value
  | .text value => writtenString value
  | .bytes value => writtenString (Text.quotedBytes value)
  | .date value => writtenString value.text
  | .dateTime value => writtenString value.text
  | .pair first second => "[" ++ written first ++ ", " ++ written second ++ "]"
  | .list items => "[" ++ Text.separated ", " (writtenItems items) ++ "]"
  | .set items => writtenString (Value.set items).shown
  | .mapping entries => "\x7b" ++ Text.separated ", " (writtenEntries entries) ++ "\x7d"
  | .shared _ value => written value

/-- The members of a list, written. -/
def writtenItems : List Value → List String
  | [] => []
  | item :: rest => written item :: writtenItems rest

/-- The entries of a mapping, written. -/
def writtenEntries : List (Value × Value) → List String
  | [] => []
  | (key, value) :: rest =>
    (writtenString ((keyText? key).getD key.plain) ++ ": " ++ written value)
      :: writtenEntries rest

end

/-- Put an entry after those at the front whose keys precede its own, or answer nothing if two keys have no
order. -/
def insertByKey? {α : Type} (entry : Value × α) : List (Value × α) → Option (List (Value × α))
  | [] => some [entry]
  | first :: rest => do
    if ← Value.precedes? first.1 entry.1 then return first :: (← insertByKey? entry rest)
    else return entry :: first :: rest

/-- Entries in the order of their keys, or nothing if two keys have no order. -/
def sortByKey? {α : Type} : List (Value × α) → Option (List (Value × α))
  | [] => some []
  | entry :: rest => do insertByKey? entry (← sortByKey? rest)

/-- The entries whose keys and values can be written, or the first fault among them. -/
def checkedEntries : List (Value × Except ValueFault Value) →
    Except ValueFault (List (Value × Value))
  | [] => .ok []
  | (key, value) :: rest => do
    if (keyText? key).isNone then throw .notWritable
    if key.hasOverlongInteger then throw .tooLongToWrite
    let checked ← value
    return (key, checked) :: (← checkedEntries rest)

mutual

/-- A value inside values with some labels, with the entries of every mapping in the order of their keys. A
value that cannot be written is refused: bytes, a date, a time or a set, an overlong integer, a mapping whose
keys have no order, and a value that holds itself. -/
def sortedWithin (labels : List Nat) : Value → Except ValueFault Value
  | .pair first second => do
    return .pair (← sortedWithin labels first) (← sortedWithin labels second)
  | .list items => (sortedItems labels items).map .list
  | .mapping entries =>
    match sortByKey? (sortedEntries labels entries) with
    | none => .error .noOrder
    | some ordered => (checkedEntries ordered).map .mapping
  | .shared label value =>
    if labels.contains label then .error .holdsItself
    else sortedWithin (label :: labels) value
  | .bytes _ => .error .notWritable
  | .date _ => .error .notWritable
  | .dateTime _ => .error .notWritable
  | .set _ => .error .notWritable
  | other => if other.hasOverlongInteger then .error .tooLongToWrite else .ok other

/-- The members of a list, each with its keys in order. -/
def sortedItems (labels : List Nat) : List Value → Except ValueFault (List Value)
  | [] => .ok []
  | item :: rest => do
    let sorted ← sortedWithin labels item
    return sorted :: (← sortedItems labels rest)

/-- The entries of a mapping with their values sorted, as far as these can be. -/
def sortedEntries (labels : List Nat) : List (Value × Value) →
    List (Value × Except ValueFault Value)
  | [] => []
  | (key, value) :: rest => (key, sortedWithin labels value) :: sortedEntries labels rest

end

/-- A value as JSON with the keys of every mapping in order, if it can be written. -/
def writtenSorted (value : Value) : Except ValueFault String :=
  (sortedWithin [] value).map written

end TraceAutomata.Json
