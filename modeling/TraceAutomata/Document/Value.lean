import TraceAutomata.Calendar
import TraceAutomata.Number.ShortestDecimal
import TraceAutomata.Text.Quoted

/-!
# Document values

The values that a structured document holds: null, truth values, numbers, texts, bytes, dates, pairs, lists,
sets and mappings. Entries of a mapping keep the order in which their keys first occur. Equality of keys follows
the number they name, so the integer one, the float one and the truth value true are one key.

A set has its members in the order in which it lists them.

A document may name one value in several places, and a list or a mapping may even hold itself. Such a
value carries a label: values with one label are one value. A value that holds itself is unfolded a few
times and then left empty, and whoever walks through it stops where a label comes back, which is earlier.
-/

namespace TraceAutomata

/-- A value of a structured document. -/
inductive Value
  | null
  | boolean (value : Bool)
  | integer (value : Int)
  | float (value : Binary64)
  | text (value : String)
  | bytes (value : List UInt8)
  | date (value : Date)
  | dateTime (value : DateTime)
  | pair (first second : Value)
  | list (items : List Value)
  | set (items : List Value)
  | mapping (entries : List (Value × Value))
  | shared (label : Nat) (value : Value)
  deriving Repr, Inhabited

namespace Value

/-- A value without its label. -/
def content : Value → Value
  | .shared _ value => value.content
  | value => value

/-- The word for the kind of a value. -/
def kindName : Value → String
  | .null => "NoneType"
  | .boolean _ => "bool"
  | .integer _ => "int"
  | .float _ => "float"
  | .text _ => "str"
  | .bytes _ => "bytes"
  | .date _ => "date"
  | .dateTime _ => "datetime"
  | .pair _ _ => "tuple"
  | .list _ => "list"
  | .set _ => "set"
  | .mapping _ => "dict"
  | .shared _ value => value.kindName

/-- Whether a value counts as present: null, false, zero and everything empty do not. -/
def isTruthy : Value → Bool
  | .null => false
  | .boolean value => value
  | .integer value => value != 0
  | .float (.finite _ significand _) => significand != 0
  | .float _ => true
  | .text value => !value.isEmpty
  | .bytes value => !value.isEmpty
  | .date _ => true
  | .dateTime _ => true
  | .pair _ _ => true
  | .list items => !items.isEmpty
  | .set items => !items.isEmpty
  | .mapping entries => !entries.isEmpty
  | .shared _ value => value.isTruthy

/-- The word for a truth value. -/
def booleanText (value : Bool) : String :=
  if value then "True" else "False"

section Showing

variable [Runtime]

/-- What is shown of a value inside itself. -/
def shownAgain : Value → String
  | .pair _ _ => "(...)"
  | .list _ => "[...]"
  | _ => "\x7b...\x7d"

mutual

/-- A value as it is shown inside values with some labels; one of these is not shown again. -/
def shownWithin (labels : List Nat) : Value → String
  | .null => "None"
  | .boolean value => booleanText value
  | .integer value => Text.signedDecimal value
  | .float value => value.text
  | .text value => Text.quoted value
  | .bytes value => Text.quotedBytes value
  | .date value => value.shown
  | .dateTime value => value.shown
  | .pair first second => "(" ++ shownWithin labels first ++ ", " ++ shownWithin labels second ++ ")"
  | .list items => Text.bracketed (shownItems labels items)
  | .set items =>
    if items.isEmpty then "set()"
    else "\x7b" ++ Text.separated ", " (shownItems labels items) ++ "\x7d"
  | .mapping entries => "\x7b" ++ Text.separated ", " (shownEntries labels entries) ++ "\x7d"
  | .shared label value =>
    if labels.contains label then shownAgain value else shownWithin (label :: labels) value

/-- The members of a list or a set, shown. -/
def shownItems (labels : List Nat) : List Value → List String
  | [] => []
  | item :: rest => shownWithin labels item :: shownItems labels rest

/-- The entries of a mapping, shown as key, colon and value. -/
def shownEntries (labels : List Nat) : List (Value × Value) → List String
  | [] => []
  | (key, value) :: rest =>
    (shownWithin labels key ++ ": " ++ shownWithin labels value) :: shownEntries labels rest

end

/-- A value as it is shown inside a message or inside another value. -/
def shown (value : Value) : String :=
  shownWithin [] value

/-- The plain text of a value: a text is itself, a date or time has no quotes or fields, and everything
else is as it is shown. -/
def plain (value : Value) : String :=
  match value.content with
  | .text own => own
  | .date day => day.text
  | .dateTime time => time.text
  | _ => value.shown

end Showing

mutual

/-- Whether a value inside values with some labels holds an integer with too many digits to be
written. -/
def holdsOverlong (labels : List Nat) : Value → Bool
  | .integer value => Text.isOverlong value
  | .pair first second => holdsOverlong labels first || holdsOverlong labels second
  | .list items => anyOverlong labels items
  | .set items => anyOverlong labels items
  | .mapping entries => anyOverlongEntry labels entries
  | .shared label value => !labels.contains label && holdsOverlong (label :: labels) value
  | _ => false

/-- Whether some member has an overlong integer. -/
def anyOverlong (labels : List Nat) : List Value → Bool
  | [] => false
  | item :: rest => holdsOverlong labels item || anyOverlong labels rest

/-- Whether some key or value has an overlong integer. -/
def anyOverlongEntry (labels : List Nat) : List (Value × Value) → Bool
  | [] => false
  | (key, value) :: rest =>
    holdsOverlong labels key || holdsOverlong labels value || anyOverlongEntry labels rest

end

/-- Whether a value holds an integer with too many digits to be written. -/
def hasOverlongInteger (value : Value) : Bool :=
  holdsOverlong [] value

/-- The exact number that a truth value, an integer or a finite float names. -/
def number? : Value → Option (Int × Int)
  | .boolean value => some (if value then 1 else 0, 0)
  | .integer value => some (value, 0)
  | .float value => value.dyadic?
  | _ => none

/-- Whether two keys are the same key. Numbers are compared by value; nothing equals the float that is
not a number. -/
def sameKey (left right : Value) : Bool :=
  match left.content, right.content with
  | .null, .null => true
  | .text left, .text right => left == right
  | .bytes left, .bytes right => left == right
  | .date left, .date right => left == right
  | .dateTime left, .dateTime right => left.same right
  | .float (.infinite left), .float (.infinite right) => left == right
  | left, right =>
    match left.number?, right.number? with
    | some leftNumber, some rightNumber => Binary64.dyadicEqual leftNumber rightNumber
    | _, _ => false

/-- Give a key a value in a mapping. A key that is there keeps its place and takes the new value. -/
def putEntry (key value : Value) : List (Value × Value) → List (Value × Value)
  | [] => [(key, value)]
  | entry :: rest =>
    if sameKey entry.1 key then (entry.1, value) :: rest else entry :: putEntry key value rest

/-- The mapping with these entries, where a later entry of the same key replaces the value. -/
def ofEntries (entries : List (Value × Value)) : Value :=
  .mapping (entries.foldl (fun built entry => putEntry entry.1 entry.2 built) [])

/-- The value under a text key among some entries. -/
def lookup (key : String) : List (Value × Value) → Option Value
  | [] => none
  | (.text present, value) :: rest => if present == key then some value else lookup key rest
  | _ :: rest => lookup key rest

section Order

variable [Runtime]

/-- Whether one text comes before another: the first code points in which they differ decide. -/
def precedesText (left right : String) : Bool :=
  left.toList.map Runtime.codePoint < right.toList.map Runtime.codePoint

/-- The order of two keys, where there is one: numbers by value, texts by code points, bytes by their numbers,
dates by day, times by instant if both have an offset or neither has. -/
def precedes? (left right : Value) : Option Bool :=
  match left.content, right.content with
  | .text left, .text right => some (precedesText left right)
  | .bytes left, .bytes right => some (left < right)
  | .date left, .date right => some (Calendar.dayNumber left < Calendar.dayNumber right)
  | .dateTime left, .dateTime right =>
    if left.offset.isSome == right.offset.isSome then some (left.instant < right.instant) else none
  | left, right => numberPrecedes? left right
where
  /-- Numbers by value; an infinity is beyond every finite number, and what is no number precedes
  nothing and follows nothing. -/
  numberPrecedes? (left right : Value) : Option Bool :=
    match extended? left, extended? right with
    | some (some (leftEnd, leftNumber)), some (some (rightEnd, rightNumber)) =>
      some (leftEnd < rightEnd ||
        (leftEnd == rightEnd && Binary64.dyadicLess leftNumber rightNumber))
    | some _, some _ => some false
    | _, _ => none
  /-- A number with a mark for the end it lies at: below, at or above the finite numbers. The float that
  is not a number lies nowhere. -/
  extended? : Value → Option (Option (Int × (Int × Int)))
    | .float (.infinite negative) => some (some (if negative then -1 else 1, (0, 0)))
    | .float .notANumber => some none
    | other => other.number?.map fun number => some (0, number)

/-- Put a key after those at the front of an ordered list that precede it, or answer nothing if it cannot be
compared. -/
def insertOrdered? (key : Value) : List Value → Option (List Value)
  | [] => some [key]
  | first :: rest => do
    if ← precedes? first key then return first :: (← insertOrdered? key rest)
    else return key :: first :: rest

/-- Keys in increasing order, or nothing if two of them cannot be compared. -/
def sortKeys? : List Value → Option (List Value)
  | [] => some []
  | key :: rest => do
    let ordered ← sortKeys? rest
    insertOrdered? key ordered

end Order

end Value

end TraceAutomata
