/-!
# Escaping markup

Texts inside a document are escaped by replacing a character throughout the text, one character after the
other: first the ampersand, then the greater-than sign, then the less-than sign, and inside an attribute
also the double quote.
-/

namespace TraceAutomata.Xml

/-- Replace every occurrence of a character by a text. -/
def replaceAll (character : Char) (replacement : List Char) (text : List Char) : List Char :=
  text.flatMap fun present => if present = character then replacement else [present]

/-- The reference that stands for the ampersand. -/
def ampersandReference : List Char := ['&', 'a', 'm', 'p', ';']

/-- The reference that stands for the greater-than sign. -/
def greaterReference : List Char := ['&', 'g', 't', ';']

/-- The reference that stands for the less-than sign. -/
def lessReference : List Char := ['&', 'l', 't', ';']

/-- The reference that stands for the double quote. -/
def quoteReference : List Char := ['&', 'q', 'u', 'o', 't', ';']

/-- Escape the characters of an element's text. -/
def escapeChars (text : List Char) : List Char :=
  replaceAll '<' lessReference (replaceAll '>' greaterReference
    (replaceAll '&' ampersandReference text))

/-- Escape the characters of an attribute's value, which stands between double quotes. -/
def escapeAttributeChars (text : List Char) : List Char :=
  replaceAll '"' quoteReference (escapeChars text)

/-- Escape the text of an element. -/
def escapeText (text : String) : String :=
  String.ofList (escapeChars text.toList)

/-- Escape the value of an attribute. -/
def escapeAttribute (value : String) : String :=
  String.ofList (escapeAttributeChars value.toList)

end TraceAutomata.Xml
