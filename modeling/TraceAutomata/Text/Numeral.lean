/-!
# Numerals

Decimal and hexadecimal numerals as texts. A decimal numeral has no leading zero and no sign other than
a minus, so different integers have different numerals.
-/

namespace TraceAutomata.Text

/-- The decimal digits of a natural number, most significant first. -/
def decimalDigits (number : Nat) : List Char :=
  Nat.toDigits 10 number

/-- The decimal numeral of a natural number. -/
def decimal (number : Nat) : String :=
  String.ofList (decimalDigits number)

/-- The decimal numeral of an integer, with a minus in front of a negative one. -/
def signedDecimal : Int → String
  | .ofNat number => decimal number
  | .negSucc number => "-" ++ decimal (number + 1)

/-- The most decimal digits that a numeral may have to be read or written. -/
def digitLimit : Nat := 4300

/-- Whether the numeral of an integer has too many digits to be written. -/
def isOverlong (number : Int) : Bool :=
  digitLimit < (decimalDigits number.natAbs).length

/-- Fill a text up on the left to a width. -/
def padLeft (fill : Char) (width : Nat) (text : List Char) : List Char :=
  List.replicate (width - text.length) fill ++ text

/-- A decimal numeral of at least `width` digits. -/
def paddedDecimal (width number : Nat) : String :=
  String.ofList (padLeft '0' width (decimalDigits number))

/-- A lower-case hexadecimal numeral of at least `width` digits. -/
def lowerHex (width number : Nat) : String :=
  String.ofList (padLeft '0' width (Nat.toDigits 16 number))

/-- An upper-case hexadecimal numeral of at least `width` digits. -/
def upperHex (width number : Nat) : String :=
  String.ofList ((padLeft '0' width (Nat.toDigits 16 number)).map Char.toUpper)

/-- The value of a digit in bases up to sixteen. -/
def digitValue? (character : Char) : Option Nat :=
  if '0' ≤ character ∧ character ≤ '9' then some (character.toNat - '0'.toNat)
  else if 'a' ≤ character ∧ character ≤ 'f' then some (character.toNat - 'a'.toNat + 10)
  else if 'A' ≤ character ∧ character ≤ 'F' then some (character.toNat - 'A'.toNat + 10)
  else none

/-- Whether a character is a hexadecimal digit. -/
def isHexDigit (character : Char) : Bool :=
  (digitValue? character).isSome

/-- The number that a row of digits writes in a base; characters that are no digits count as zero, so
callers check them first. -/
def ofDigits (base : Nat) (digits : List Char) : Nat :=
  digits.foldl (fun value digit => value * base + (digitValue? digit).getD 0) 0

end TraceAutomata.Text
