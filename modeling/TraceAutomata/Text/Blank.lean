/-!
# White space

The characters with the Unicode property of white space, together with the four information separators,
and the trimming of texts by them.
-/

namespace TraceAutomata.Text

/-- Whether a character is white space. The byte order mark and the zero-width space are not. -/
def isBlank (character : Char) : Bool :=
  let codePoint := character.toNat
  (0x09 ≤ codePoint && codePoint ≤ 0x0D) || (0x1C ≤ codePoint && codePoint ≤ 0x20) ||
  codePoint == 0x85 || codePoint == 0xA0 || codePoint == 0x1680 ||
  (0x2000 ≤ codePoint && codePoint ≤ 0x200A) || codePoint == 0x2028 || codePoint == 0x2029 ||
  codePoint == 0x202F || codePoint == 0x205F || codePoint == 0x3000

/-- Whether a character is one of the six blanks of ASCII that may stand around a numeral. -/
def isNumeralBlank (character : Char) : Bool :=
  character == ' ' || (0x09 ≤ character.toNat && character.toNat ≤ 0x0D)

/-- Drop the members at the end that satisfy a test. -/
def dropWhileEnd {α : Type} (test : α → Bool) (members : List α) : List α :=
  (members.reverse.dropWhile test).reverse

/-- A text without the white space at its start and end. -/
def trim (text : String) : String :=
  String.ofList (dropWhileEnd isBlank (text.toList.dropWhile isBlank))

end TraceAutomata.Text
