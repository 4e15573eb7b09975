import TraceAutomata.Document.Value

/-!
# Reading JSON

A total reader of JSON texts. A number with a fraction or an exponent is a float, every other number an
integer of any size up to the digit limit; the three words for numbers that are not finite are accepted.
A repeated key keeps its place and takes the last value. Collections stand within each other up to a limit.
The reader is recursive descent over the characters that remain, with a bound on its steps that no text of
that length can reach.
-/

namespace TraceAutomata.Json

/-- Why a text is not read. -/
inductive Fault
  | malformed
  | integerTooLong (digits : Nat)
  | nestedTooDeeply
  deriving DecidableEq, Repr

/-- Drop the blanks that may stand between the parts of a text. -/
def skipBlanks (text : List Char) : List Char :=
  text.dropWhile fun character =>
    character == ' ' || character == '\t' || character == '\n' || character == '\r'

/-- Whether a character is a decimal digit. -/
def isDigit (character : Char) : Bool :=
  '0' ≤ character && character ≤ '9'

/-- The four hexadecimal digits of an escape, as a number. -/
def readUnit : List Char → Except Fault (Nat × List Char)
  | first :: second :: third :: fourth :: following =>
    let digits := [first, second, third, fourth]
    if digits.all Text.isHexDigit then .ok (Text.ofDigits 16 digits, following)
    else .error .malformed
  | _ => .error .malformed

variable [Runtime]

/-- The character of an escape that starts with this unit. A high surrogate joins with the low one escaped right after
it; a surrogate without its partner stays one. -/
def joinUnits (unit : Nat) (following : List Char) : Char × List Char :=
  let alone := (Runtime.character unit, following)
  if 0xD800 ≤ unit && unit ≤ 0xDBFF then
    match following with
    | '\\' :: 'u' :: rest =>
      match readUnit rest with
      | .ok (second, after) =>
        if 0xDC00 ≤ second && second ≤ 0xDFFF then
          (Char.ofNat (0x10000 + (unit - 0xD800) * 0x400 + (second - 0xDC00)), after)
        else alone
      | .error _ => alone
    | _ => alone
  else alone

/-- The character that a one-letter escape stands for. -/
def escapedChar? : Char → Option Char
  | '"' => some '"'
  | '\\' => some '\\'
  | '/' => some '/'
  | 'b' => some (Char.ofNat 0x08)
  | 'f' => some (Char.ofNat 0x0C)
  | 'n' => some '\n'
  | 'r' => some '\r'
  | 't' => some '\t'
  | _ => none

/-- Read the rest of a string after its opening quote. `read` holds the characters so far, last first. -/
def readString (read : List Char) : Nat → List Char → Except Fault (String × List Char)
  | 0, _ => .error .malformed
  | _, [] => .error .malformed
  | bound + 1, character :: following =>
    if character == '"' then .ok (String.ofList read.reverse, following)
    else if character == '\\' then
      match following with
      | [] => .error .malformed
      | 'u' :: rest => do
        let (unit, after) ← readUnit rest
        let (joined, remaining) := joinUnits unit after
        readString (joined :: read) bound remaining
      | letter :: rest =>
        match escapedChar? letter with
        | some meant => readString (meant :: read) bound rest
        | none => .error .malformed
    else if character.toNat < 0x20 then .error .malformed
    else readString (character :: read) bound following

/-- Split the digits off the front. -/
def takeDigits (text : List Char) : List Char × List Char :=
  (text.takeWhile isDigit, text.dropWhile isDigit)

/-- The fraction digits at the front, if a point with a digit after it stands there. -/
def takeFraction : List Char → Option (List Char) × List Char
  | '.' :: following =>
    match takeDigits following with
    | ([], _) => (none, '.' :: following)
    | (digits, rest) => (some digits, rest)
  | text => (none, text)

/-- The power of ten at the front, if a complete exponent stands there. -/
def takeExponent (text : List Char) : Option Int × List Char :=
  match text with
  | [] => (none, text)
  | letter :: following =>
    if letter == 'e' || letter == 'E' then
      let (negative, digitsOn) := match following with
        | '-' :: rest => (true, rest)
        | '+' :: rest => (false, rest)
        | rest => (false, rest)
      match takeDigits digitsOn with
      | ([], _) => (none, text)
      | (digits, rest) =>
        let magnitude : Int := Text.ofDigits 10 digits
        (some (if negative then -magnitude else magnitude), rest)
    else (none, text)

/-- The whole digits of a number at the front. A number that starts with zero has no other whole digit. -/
def takeWhole : List Char → List Char × List Char
  | '0' :: following => (['0'], following)
  | text => takeDigits text

/-- Read a number from its first digit on. -/
def readNumber (negative : Bool) (text : List Char) : Except Fault (Value × List Char) :=
  let (whole, afterWhole) := takeWhole text
  if whole.isEmpty then .error .malformed
  else
    let (fraction, afterFraction) := takeFraction afterWhole
    let (exponent, rest) := takeExponent afterFraction
    match fraction, exponent with
    | none, none =>
      if Text.digitLimit < whole.length then .error (.integerTooLong whole.length)
      else
        let magnitude : Int := Text.ofDigits 10 whole
        .ok (.integer (if negative then -magnitude else magnitude), rest)
    | _, _ =>
      let fractionDigits := fraction.getD []
      let significand := Text.ofDigits 10 (whole ++ fractionDigits)
      .ok (.float (Binary64.ofDecimal negative significand
        (exponent.getD 0 - fractionDigits.length)), rest)

/-- Words that are values of their own. -/
def words : List (List Char × Value) :=
  [("null".toList, .null), ("true".toList, .boolean true), ("false".toList, .boolean false),
   ("NaN".toList, .float .notANumber), ("Infinity".toList, .float (.infinite false)),
   ("-Infinity".toList, .float (.infinite true))]

/-- The word at the front, if there is one. -/
def takeWord (text : List Char) : List (List Char × Value) → Option (Value × List Char)
  | [] => none
  | (word, value) :: others =>
    if word.isPrefixOf text then some (value, text.drop word.length) else takeWord text others

/-- The most collections that may stand within each other. -/
def nestingLimit : Nat := Runtime.room

/-- A collection must not stand in too many others. -/
def checkDepth (depth : Nat) : Except Fault Unit :=
  if nestingLimit ≤ depth then .error .nestedTooDeeply else .ok ()

mutual

/-- Read one value that stands in some collections. -/
def readValue : Nat → Nat → List Char → Except Fault (Value × List Char)
  | 0, _, _ => .error .malformed
  | bound + 1, depth, text =>
    match text with
    | [] => .error .malformed
    | '"' :: following => do
      let (string, rest) ← readString [] (following.length + 1) following
      return (.text string, rest)
    | '[' :: following => do
      checkDepth depth
      match skipBlanks following with
      | ']' :: rest => return (.list [], rest)
      | inner =>
        let (items, rest) ← readItems bound (depth + 1) inner
        return (.list items, rest)
    | '\x7b' :: following => do
      checkDepth depth
      match skipBlanks following with
      | '\x7d' :: rest => return (.mapping [], rest)
      | inner =>
        let (entries, rest) ← readEntries bound (depth + 1) inner
        return (Value.ofEntries entries, rest)
    | _ =>
      match takeWord text words with
      | some found => .ok found
      | none =>
        match text with
        | '-' :: digits => readNumber true digits
        | digits => readNumber false digits

/-- Read the members of a list up to its closing bracket. -/
def readItems : Nat → Nat → List Char → Except Fault (List Value × List Char)
  | 0, _, _ => .error .malformed
  | bound + 1, depth, text => do
    let (item, afterItem) ← readValue bound depth text
    match skipBlanks afterItem with
    | ']' :: rest => return ([item], rest)
    | ',' :: following =>
      let (items, rest) ← readItems bound depth (skipBlanks following)
      return (item :: items, rest)
    | _ => throw .malformed

/-- Read the entries of a mapping up to its closing brace. -/
def readEntries : Nat → Nat → List Char → Except Fault (List (Value × Value) × List Char)
  | 0, _, _ => .error .malformed
  | bound + 1, depth, text =>
    match text with
    | '"' :: following => do
      let (key, afterKey) ← readString [] (following.length + 1) following
      match skipBlanks afterKey with
      | ':' :: beforeValue =>
        let (value, afterValue) ← readValue bound depth (skipBlanks beforeValue)
        match skipBlanks afterValue with
        | '\x7d' :: rest => return ([(.text key, value)], rest)
        | ',' :: next =>
          let (entries, rest) ← readEntries bound depth (skipBlanks next)
          return ((.text key, value) :: entries, rest)
        | _ => throw .malformed
      | _ => throw .malformed
    | _ => .error .malformed

end

/-- The value that a whole text writes. -/
def read (text : String) : Except Fault Value := do
  let characters := skipBlanks text.toList
  let (value, rest) ← readValue (characters.length + 1) 0 characters
  if (skipBlanks rest).isEmpty then return value else throw .malformed

end TraceAutomata.Json
