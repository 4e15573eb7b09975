import TraceAutomata.Text.Numeral

/-!
# What plain texts mean

The kind of value that a plain scalar names, decided by its text alone. Every form is matched against the
whole text, or against all of it but a line feed at its end; a text that matches none of them is a text.
-/

namespace TraceAutomata.Yaml

/-- The kinds of values that a node can name. A text that is one of three signs of the format is an
indicator, which has no value. -/
inductive Kind
  | null
  | boolean
  | integer
  | float
  | timestamp
  | merge
  | default
  | indicator
  | text
  | binary
  | list
  | pairs
  | set
  | mapping
  deriving DecidableEq, Repr

/-- Drop one sign at the front. -/
def dropSign : List Char → List Char
  | '+' :: rest => rest
  | '-' :: rest => rest
  | text => text

/-- Whether a character is a digit of a base up to ten or an underscore. -/
def isDigitOf (base : Nat) (character : Char) : Bool :=
  character == '_' || ('0' ≤ character && character.toNat < '0'.toNat + base)

/-- Whether a character is a decimal digit. -/
def isDecimal (character : Char) : Bool :=
  '0' ≤ character && character ≤ '9'

/-- Whether a text is a first digit and further digits or underscores. -/
def isGrouped (first : Char → Bool) : List Char → Bool
  | [] => false
  | character :: rest => first character && rest.all (isDigitOf 10)

/-- Whether a character is a decimal digit other than zero. -/
def isLeadingDigit (character : Char) : Bool :=
  isDecimal character && character != '0'

/-- Whether a text writes a number of minutes or seconds. -/
def isSexagesimalPlace : List Char → Bool
  | [digit] => isDecimal digit
  | [tens, digit] => '0' ≤ tens && tens ≤ '5' && isDecimal digit
  | _ => false

/-- The parts of a text between separators, empty parts included. -/
def splitAt (separator : Char) : List Char → List (List Char)
  | [] => [[]]
  | character :: rest =>
    match splitAt separator rest with
    | [] => [[character]]
    | first :: others =>
      if character == separator then [] :: first :: others else (character :: first) :: others

/-- Whether a text writes an integer: in base two, eight, ten, sixteen or sixty. -/
def isInteger (text : List Char) : Bool :=
  match dropSign text with
  | [] => false
  | ['0'] => true
  | '0' :: 'b' :: digits => !digits.isEmpty && digits.all (isDigitOf 2)
  | '0' :: 'x' :: digits =>
    !digits.isEmpty && digits.all fun digit => digit == '_' || Text.isHexDigit digit
  | '0' :: digits => digits.all (isDigitOf 8)
  | digits =>
    match splitAt ':' digits with
    | [whole] => isGrouped isLeadingDigit whole
    | whole :: places => isGrouped isLeadingDigit whole && places.all isSexagesimalPlace
    | [] => false

/-- Whether a text is a fraction's digits with a complete exponent or none. An exponent has a sign. -/
def isFractionTail (text : List Char) : Bool :=
  match text.dropWhile (isDigitOf 10) with
  | [] => true
  | letter :: sign :: digits =>
    (letter == 'e' || letter == 'E') && (sign == '+' || sign == '-')
      && !digits.isEmpty && digits.all isDecimal
  | _ => false

/-- The words for a float that is not finite, without sign. -/
def isInfinityWord (text : List Char) : Bool :=
  text == ".inf".toList || text == ".Inf".toList || text == ".INF".toList

/-- The words for the float that is not a number. -/
def isNotANumberWord (text : List Char) : Bool :=
  text == ".nan".toList || text == ".NaN".toList || text == ".NAN".toList

/-- Whether a text writes a float: with a decimal point, in base ten or sixty, or as a word. -/
def isFloat (text : List Char) : Bool :=
  let unsigned := dropSign text
  let pointForm :=
    match text with
    | '.' :: fraction => fraction.head?.any isDecimal && isFractionTail fraction
    | _ =>
      match unsigned.dropWhile (· != '.') with
      | '.' :: fraction =>
        let whole := unsigned.takeWhile (· != '.')
        match splitAt ':' whole with
        | [digits] => isGrouped isDecimal digits && isFractionTail fraction
        | digits :: places =>
          isGrouped isDecimal digits && places.all isSexagesimalPlace
            && fraction.all (isDigitOf 10)
        | [] => false
      | _ => false
  pointForm || isInfinityWord unsigned || isNotANumberWord text

/-- The words for null. -/
def isNullWord (text : List Char) : Bool :=
  text.isEmpty || text == ['~'] || text == "null".toList || text == "Null".toList
    || text == "NULL".toList

/-- The truth values by their words in lower case. -/
def booleanWords : List (String × Bool) :=
  [("yes", true), ("no", false), ("true", true), ("false", false), ("on", true), ("off", false)]

/-- A word with its first letter in upper case. -/
def capitalized (word : List Char) : List Char :=
  match word with
  | [] => []
  | first :: rest => first.toUpper :: rest

/-- Whether a text is a word for a truth value, in lower case, capitalized or in upper case. -/
def isBooleanWord (text : List Char) : Bool :=
  booleanWords.any fun entry =>
    let word := entry.1.toList
    text == word || text == capitalized word || text == word.map Char.toUpper

/-! ## Timestamps -/

/-- Take between one and two digits off the front. -/
def takeOneOrTwoDigits : List Char → Option (List Char × List Char)
  | first :: second :: rest =>
    if isDecimal first then
      if isDecimal second then some ([first, second], rest) else some ([first], second :: rest)
    else none
  | [first] => if isDecimal first then some ([first], []) else none
  | [] => none

/-- Take exactly some digits off the front. -/
def takeDigitsExactly (count : Nat) (text : List Char) : Option (List Char × List Char) :=
  let digits := text.take count
  if digits.length == count && digits.all isDecimal then some (digits, text.drop count) else none

/-- Take one character off the front. -/
def takeCharacter (wanted : Char) : List Char → Option (List Char)
  | first :: rest => if first == wanted then some rest else none
  | [] => none

/-- An offset from universal time as it is written. -/
inductive ZoneText
  | universal
  | offset (negative : Bool) (hours minutes : Nat)
  deriving DecidableEq, Repr

/-- A time of day as it is written, with the digits of its fraction. -/
structure ClockText where
  hour : Nat
  minute : Nat
  second : Nat
  fraction : List Char
  zone : Option ZoneText
  deriving DecidableEq, Repr

/-- A date, or a date and time, as written. `padded` says that month and day have two digits each. -/
structure TimestampText where
  year : Nat
  month : Nat
  day : Nat
  padded : Bool
  clock : Option ClockText
  deriving DecidableEq, Repr

/-- Read the offset at the end of a timestamp; nothing at all is no offset. -/
def readZone (text : List Char) : Option (Option ZoneText) :=
  match text with
  | [] => some none
  | _ =>
    match text.dropWhile fun character => character == ' ' || character == '\t' with
    | [] => none
    | ['Z'] => some (some .universal)
    | sign :: digits =>
      if sign == '+' || sign == '-' then do
        let (hours, rest) ← takeOneOrTwoDigits digits
        let negative := sign == '-'
        match rest with
        | [] => return some (.offset negative (Text.ofDigits 10 hours) 0)
        | ':' :: last =>
          let (minutes, after) ← takeDigitsExactly 2 last
          if after.isEmpty then
            return some (.offset negative (Text.ofDigits 10 hours) (Text.ofDigits 10 minutes))
          else none
        | _ => none
      else none

/-- Read the time of day of a timestamp from its hour on. -/
def readClock (text : List Char) : Option ClockText := do
  let (hour, afterHour) ← takeOneOrTwoDigits text
  let (minute, afterMinute) ← takeDigitsExactly 2 (← takeCharacter ':' afterHour)
  let (second, afterSecond) ← takeDigitsExactly 2 (← takeCharacter ':' afterMinute)
  let (fraction, rest) := match afterSecond with
    | '.' :: digits => (digits.takeWhile isDecimal, digits.dropWhile isDecimal)
    | other => ([], other)
  let zone ← readZone rest
  return ⟨Text.ofDigits 10 hour, Text.ofDigits 10 minute, Text.ofDigits 10 second, fraction, zone⟩

/-- Read a timestamp: year, month and day, and after a T or blanks a time of day. -/
def readTimestamp (text : List Char) : Option TimestampText := do
  let (year, afterYear) ← takeDigitsExactly 4 text
  let (month, afterMonth) ← takeOneOrTwoDigits (← takeCharacter '-' afterYear)
  let (day, rest) ← takeOneOrTwoDigits (← takeCharacter '-' afterMonth)
  let padded := month.length == 2 && day.length == 2
  let date (clock : Option ClockText) : TimestampText :=
    ⟨Text.ofDigits 10 year, Text.ofDigits 10 month, Text.ofDigits 10 day, padded, clock⟩
  match rest with
  | [] => return date none
  | first :: clockText =>
    if first == 'T' || first == 't' then return date (some (← readClock clockText))
    else if first == ' ' || first == '\t' then
      let clock ← readClock (clockText.dropWhile fun character =>
        character == ' ' || character == '\t')
      return date (some clock)
    else none

/-- Whether a plain text writes a timestamp. A date alone needs two digits for month and day. -/
def isTimestamp (text : List Char) : Bool :=
  match readTimestamp text with
  | some timestamp => timestamp.clock.isSome || timestamp.padded
  | none => false

/-- A text without the line feed at its end, if it has one. -/
def dropFinalBreak (text : List Char) : List Char :=
  if text.getLast? == some '\n' then text.dropLast else text

/-- The kind of value that a text without a final line feed names. -/
def Kind.ofWord (text : List Char) : Kind :=
  if isBooleanWord text then .boolean
  else if isFloat text then .float
  else if isInteger text then .integer
  else if text == ['<', '<'] then .merge
  else if isNullWord text then .null
  else if isTimestamp text then .timestamp
  else if text == ['='] then .default
  else if text == ['!'] || text == ['&'] || text == ['*'] then .indicator
  else .text

/-- The kind of value that a plain text names. A line feed alone is a text. -/
def Kind.ofPlain (text : List Char) : Kind :=
  if text == ['\n'] then .text else Kind.ofWord (dropFinalBreak text)

end TraceAutomata.Yaml
