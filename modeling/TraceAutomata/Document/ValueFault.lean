import TraceAutomata.Calendar
import TraceAutomata.Document.Value
import TraceAutomata.Text.Utf8

/-!
# Faults of values

A well-formed document can hold scalars that name no value, such as a day that does not exist, and values that
cannot be written, such as an integer of more digits than the limit or lists within each other beyond the room that
is left. These faults are not errors of the document's form; each has a kind and a wording.
-/

namespace TraceAutomata

/-- Why a scalar names no value, or a value cannot be used. A code point is too long when it does not even
fit a machine word; the places of a number of base sixty grow too large for a float. -/
inductive ValueFault
  | calendar (fault : CalendarFault)
  | integerTooLong (digits : Nat)
  | tooLongToWrite
  | notAnInteger (base : Nat) (text : String)
  | notAFloat (text : String)
  | emptyNumber
  | unknownBoolean (word : String)
  | notATimestamp
  | textExpected
  | codePointOutOfRange
  | codePointTooLong
  | placeTooLarge
  | nestedTooDeeply
  | holdsItself
  | noOrder
  | notWritable
  | embeddedNull
  | notEncodable (fault : Text.EncodeFault)
  deriving DecidableEq, Repr

namespace ValueFault

/-- The kind of a fault. -/
def kind : ValueFault → String
  | .emptyNumber => "IndexError"
  | .unknownBoolean _ => "KeyError"
  | .notATimestamp => "AttributeError"
  | .textExpected => "TypeError"
  | .codePointTooLong => "OverflowError"
  | .placeTooLarge => "OverflowError"
  | .nestedTooDeeply => "RecursionError"
  | .noOrder => "TypeError"
  | .notWritable => "TypeError"
  | .notEncodable _ => "UnicodeEncodeError"
  | _ => "ValueError"

/-- What the limit on digits is about, for the wording of the two faults of too long integers. -/
def limitWording : String :=
  "Exceeds the limit (" ++ Text.decimal Text.digitLimit ++ " digits) for integer string conversion"

/-- The hint that follows the wording of the limit. -/
def limitHint : String :=
  "; use sys.set_int_max_str_digits() to increase the limit"

/-- The most characters of a text that are shown when it is no integer. -/
def shownLimit : Nat := 200

variable [Runtime]

/-- The wording of a fault. -/
def message : ValueFault → String
  | .calendar fault => fault.message
  | .integerTooLong digits =>
    limitWording ++ ": value has " ++ Text.decimal digits ++ " digits" ++ limitHint
  | .tooLongToWrite => limitWording ++ limitHint
  | .notAnInteger base text =>
    "invalid literal for int() with base " ++ Text.decimal base ++ ": "
      ++ String.ofList ((Text.quoted text).toList.take shownLimit)
  | .notAFloat text => "could not convert string to float: " ++ Text.quoted text
  | .emptyNumber => "string index out of range"
  | .unknownBoolean word => Text.quoted word
  | .notATimestamp => "'NoneType' object has no attribute 'groupdict'"
  | .textExpected => "expected string or bytes-like object, got 'list'"
  | .codePointOutOfRange => "chr() arg not in range(0x110000)"
  | .codePointTooLong => "Python int too large to convert to C int"
  | .placeTooLarge => "int too large to convert to float"
  | .nestedTooDeeply => "maximum recursion depth exceeded"
  | .holdsItself => "Circular reference detected"
  | .noOrder => "keys of different types have no order"
  | .notWritable => "the value has no such notation"
  | .embeddedNull => "embedded null byte"
  | .notEncodable fault => fault.message

end ValueFault

namespace Value

/-- The numeral of an integer, if it does not have too many digits. -/
def integerText (number : Int) : Except ValueFault String :=
  if Text.isOverlong number then .error .tooLongToWrite else .ok (Text.signedDecimal number)

/-! ## Faults of showing -/

/-- A fault inside a value that is shown, for which a level is left. -/
def inside (inner : Nat → Option ValueFault) : Nat → Option ValueFault
  | 0 => some .nestedTooDeeply
  | room + 1 => inner room

mutual

/-- The first fault of showing a value inside values with some labels. Each value that is shown takes one of the
levels that are left; a set with members lists them on a level of its own. -/
def faultWithin (labels : List Nat) (room : Nat) : Value → Option ValueFault
  | .integer value =>
    inside (fun _ => if Text.isOverlong value then some .tooLongToWrite else none) room
  | .pair first second =>
    inside (fun left => (faultWithin labels left first).or (faultWithin labels left second)) room
  | .list items => inside (fun left => faultAmong labels left items) room
  | .set items =>
    inside (fun left =>
      if items.isEmpty then none else inside (fun inner => faultAmong labels inner items) left) room
  | .mapping entries => inside (fun left => faultAmongEntries labels left entries) room
  | .shared label value =>
    if labels.contains label then inside (fun _ => none) room else faultWithin (label :: labels) room value
  | _ => inside (fun _ => none) room

/-- The first fault of showing the members of a list or a set. -/
def faultAmong (labels : List Nat) (room : Nat) : List Value → Option ValueFault
  | [] => none
  | item :: rest => (faultWithin labels room item).or (faultAmong labels room rest)

/-- The first fault of showing the entries of a mapping. -/
def faultAmongEntries (labels : List Nat) (room : Nat) : List (Value × Value) → Option ValueFault
  | [] => none
  | (key, value) :: rest =>
    ((faultWithin labels room key).or (faultWithin labels room value)).or
      (faultAmongEntries labels room rest)

end

variable [Runtime]

/-- The first fault of showing a value. -/
def showingFault? (value : Value) : Option ValueFault :=
  faultWithin [] Runtime.room value

/-- The plain text of a value, if it can be shown. -/
def plainText (value : Value) : Except ValueFault String :=
  match value.showingFault? with
  | some fault => .error fault
  | none => .ok value.plain

/-- A value as it is shown, if it can be. -/
def shownText (value : Value) : Except ValueFault String :=
  match value.showingFault? with
  | some fault => .error fault
  | none => .ok value.shown

end Value

end TraceAutomata
