import TraceAutomata.Runtime
import TraceAutomata.Text.Numeral
import TraceAutomata.Text.Printable

/-!
# Quoted texts

How a text is shown inside a message: between quotes, with the quote, the backslash and every
character that does not print escaped. Apostrophes are the quotes, unless the text holds an apostrophe
and no double quote.
-/

namespace TraceAutomata.Text

/-- The apostrophe, which is also the first choice of quote. -/
def apostrophe : Char := Char.ofNat 0x27

/-- The quote that a text is shown between. -/
def quoteFor (text : String) : Char :=
  if text.toList.contains apostrophe && !text.toList.contains '"' then '"' else apostrophe

variable [Runtime]

/-- One character between quotes: a line feed, carriage return or tab by its letter, another character
that does not print by its code point in two, four or eight hexadecimal digits. -/
def quotedChar (quote character : Char) : String :=
  let codePoint := Runtime.codePoint character
  if character == quote || character == '\\' then String.ofList ['\\', character]
  else if character == '\n' then "\\n"
  else if character == '\r' then "\\r"
  else if character == '\t' then "\\t"
  else if isPrintable character then String.ofList [character]
  else if codePoint ≤ 0xFF then "\\x" ++ lowerHex 2 codePoint
  else if codePoint ≤ 0xFFFF then "\\u" ++ lowerHex 4 codePoint
  else "\\U" ++ lowerHex 8 codePoint

/-- A text between quotes. -/
def quoted (text : String) : String :=
  let quote := quoteFor text
  String.ofList [quote] ++ String.join (text.toList.map (quotedChar quote)) ++ String.ofList [quote]

/-- A byte between quotes: as the character of ASCII that it stands for, if it stands for one. -/
def quotedByte (quote : Char) (byte : UInt8) : String :=
  if byte < 0x80 then quotedChar quote (Char.ofNat byte.toNat) else "\\x" ++ lowerHex 2 byte.toNat

/-- Bytes between quotes, after the letter that tells them from a text. -/
def quotedBytes (bytes : List UInt8) : String :=
  let quote := quoteFor (String.ofList (bytes.map fun byte => Char.ofNat byte.toNat))
  String.ofList ['b', quote] ++ String.join (bytes.map (quotedByte quote)) ++ String.ofList [quote]

/-- Texts one after another with a separator between neighbours. -/
def separated (separator : String) (texts : List String) : String :=
  separator.intercalate texts

/-- A list of shown members between square brackets. -/
def bracketed (members : List String) : String :=
  "[" ++ separated ", " members ++ "]"

end TraceAutomata.Text
