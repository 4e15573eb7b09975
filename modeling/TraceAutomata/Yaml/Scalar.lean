import TraceAutomata.Document.ValueFault
import TraceAutomata.Text.DecimalDigit
import TraceAutomata.Text.LowerCase
import TraceAutomata.Text.Base64
import TraceAutomata.Yaml.Resolution

/-!
# Values of scalars

The numbers, truth values, dates and times that the texts of scalars name. The kind of a scalar may have been
given by a tag, so its text need not have the form by which the kind is recognised: numerals may have blanks
around them and digits of any script, and what names no value has a fault of its own.
-/

namespace TraceAutomata.Yaml

/-- The digits of a number without grouping underscores. -/
def dropGrouping (text : List Char) : List Char :=
  text.filter (· != '_')

/-- Read a sign at the front: whether it is a minus, and the rest. A number without anything has no sign to
look at. -/
def takeSign (text : List Char) : Except ValueFault (Bool × List Char) :=
  match text with
  | [] => .error .emptyNumber
  | '-' :: rest => .ok (true, rest)
  | '+' :: rest => .ok (false, rest)
  | rest => .ok (false, rest)

/-- A text as a numeral of ASCII without the blanks around it. -/
def trimmedNumeral (text : List Char) : List Char :=
  Text.dropWhileEnd Text.isNumeralBlank
    ((text.map Text.numeralChar).dropWhile Text.isNumeralBlank)

/-- Drop the mark of a base in front of the digits, if it is there. -/
def dropBaseMark (base : Nat) (text : List Char) : List Char :=
  let marks := if base == 2 then ['b', 'B'] else if base == 8 then ['o', 'O']
    else if base == 16 then ['x', 'X'] else []
  match text with
  | '0' :: letter :: rest => if marks.contains letter then rest else text
  | _ => text

/-- Read an integer literal of a base: blanks around it, a sign and the mark of its base are allowed. Too many
decimal digits in a row are refused even if something else follows them. -/
def readIntegerLiteral (base : Nat) (text : List Char) : Except ValueFault Int :=
  let trimmed := trimmedNumeral text
  let (negative, unsigned) := match trimmed with
    | '-' :: rest => (true, rest)
    | '+' :: rest => (false, rest)
    | rest => (false, rest)
  let numeral := dropBaseMark base unsigned
  let digits := numeral.takeWhile fun digit => (Text.digitValue? digit).any (· < base)
  if base == 10 && Text.digitLimit < digits.length then .error (.integerTooLong digits.length)
  else if digits.isEmpty || digits.length != numeral.length then
    .error (.notAnInteger base (String.ofList text))
  else
    let magnitude : Int := Text.ofDigits base digits
    .ok (if negative then -magnitude else magnitude)

/-- Add up places of base sixty, the last place first. -/
def sexagesimalInteger (places : List Int) : Int :=
  places.foldr (fun place rest => place + 60 * rest) 0

/-- The integer that a scalar names. -/
def readInteger (text : List Char) : Except ValueFault Int := do
  let (negative, digits) ← takeSign (dropGrouping text)
  let magnitude ←
    match digits with
    | [] => throw ValueFault.emptyNumber
    | ['0'] => pure 0
    | '0' :: 'b' :: binary => readIntegerLiteral 2 binary
    | '0' :: 'x' :: hexadecimal => readIntegerLiteral 16 hexadecimal
    | '0' :: _ => readIntegerLiteral 8 digits
    | _ =>
      if digits.contains ':' then do
        let places ← (splitAt ':' digits).mapM (readIntegerLiteral 10)
        pure (sexagesimalInteger places.reverse)
      else readIntegerLiteral 10 digits
  return if negative then -magnitude else magnitude

/-- The digits and the power of ten of a float literal: digits with at most one point among them, and then
maybe an exponent. -/
def readDecimalLiteral (text : List Char) : Option (Nat × Int) :=
  let whole := text.takeWhile isDecimal
  let afterWhole := text.dropWhile isDecimal
  let (fraction, afterFraction) := match afterWhole with
    | '.' :: rest => (rest.takeWhile isDecimal, rest.dropWhile isDecimal)
    | rest => ([], rest)
  let digits := whole ++ fraction
  let places : Int := fraction.length
  if digits.isEmpty then none
  else
    match afterFraction with
    | [] => some (Text.ofDigits 10 digits, -places)
    | letter :: exponentText =>
      if letter == 'e' || letter == 'E' then
        let exponentDigits := dropSign exponentText
        if exponentDigits.isEmpty || !exponentDigits.all isDecimal then none
        else
          let magnitude : Int := Text.ofDigits 10 exponentDigits
          let exponent := if exponentText.head? == some '-' then -magnitude else magnitude
          some (Text.ofDigits 10 digits, exponent - places)
      else none

/-- Read a float literal: blanks around it, a sign, and the words for infinities and for what is no number
are allowed. -/
def readFloatLiteral (text : List Char) : Except ValueFault Binary64 :=
  let trimmed := trimmedNumeral text
  let negative := trimmed.head? == some '-'
  let unsigned := (dropSign trimmed).map Char.toLower
  if unsigned == "inf".toList || unsigned == "infinity".toList then .ok (.infinite negative)
  else if unsigned == "nan".toList then .ok .notANumber
  else
    match readDecimalLiteral unsigned with
    | some (digits, exponent) => .ok (Binary64.ofDecimal negative digits exponent)
    | none => .error (.notAFloat (String.ofList text))

/-- Add up places of base sixty in floating point, the last place first. The worth of a place must itself be
in the range of floats. -/
def sexagesimalFloat : List Binary64 → Nat → Binary64 → Except ValueFault Binary64
  | [], _, sum => .ok sum
  | place :: rest, worth, sum =>
    match Binary64.ofRatio false worth 1 with
    | .infinite _ => .error .placeTooLarge
    | _ => sexagesimalFloat rest (worth * 60) (sum.add (place.scale worth))

/-- The float that a scalar names. -/
def readFloat (text : List Char) : Except ValueFault Binary64 := do
  let (negative, digits) ← takeSign (Text.lowerCaseFrom [] (dropGrouping text))
  let magnitude ←
    if digits == ".inf".toList then pure (Binary64.infinite false)
    else if digits == ".nan".toList then pure Binary64.notANumber
    else if digits.contains ':' then do
      let places ← (splitAt ':' digits).mapM readFloatLiteral
      sexagesimalFloat places.reverse 1 (Binary64.zero false)
    else readFloatLiteral digits
  return if negative then magnitude.neg else magnitude

/-- The truth value that a scalar names. -/
def readBoolean (text : String) : Except ValueFault Bool :=
  let word := Text.lowerCase text
  match booleanWords.find? fun entry => entry.1 == word with
  | some entry => .ok entry.2
  | none => .error (.unknownBoolean word)

/-- The seconds east of universal time that an offset names. -/
def ZoneText.seconds : ZoneText → Int
  | .universal => 0
  | .offset negative hours minutes =>
    let magnitude : Int := (hours * 3600 + minutes * 60 : Nat)
    if negative then -magnitude else magnitude

/-- The microseconds that the digits of a fraction name; digits after the sixth are dropped. -/
def microseconds (fraction : List Char) : Nat :=
  let digits := fraction.take 6
  Text.ofDigits 10 (digits ++ List.replicate (6 - digits.length) '0')

/-- The date or time that a scalar names. A line feed at the end of its text is passed over. -/
def readTimestampValue (text : List Char) : Except ValueFault Value :=
  match readTimestamp (dropFinalBreak text) with
  | none => .error .notATimestamp
  | some timestamp =>
    match timestamp.clock with
    | none =>
      match Date.ofNumbers timestamp.year timestamp.month timestamp.day with
      | .ok date => .ok (.date date)
      | .error fault => .error (.calendar fault)
    | some clock =>
      match DateTime.ofNumbers timestamp.year timestamp.month timestamp.day clock.hour clock.minute
          clock.second (microseconds clock.fraction) (clock.zone.map ZoneText.seconds) with
      | .ok time => .ok (.dateTime time)
      | .error fault => .error (.calendar fault)

/-- The value that a text names as a scalar of a kind. The signs of merging and of the default, the indicators,
and letters that stand for no bytes name no value. -/
def readScalar? (kind : Kind) (text : String) : Option (Except ValueFault Value) :=
  match kind with
  | .null => some (.ok .null)
  | .boolean => some ((readBoolean text).map .boolean)
  | .integer => some ((readInteger text.toList).map .integer)
  | .float => some ((readFloat text.toList).map .float)
  | .timestamp => some (readTimestampValue text.toList)
  | .text => some (.ok (.text text))
  | .binary =>
    if text.toList.all fun character => character.toNat < 0x80 then
      (Text.Base64.decode? text.toList).map fun bytes => .ok (.bytes bytes)
    else none
  | _ => none

end TraceAutomata.Yaml
