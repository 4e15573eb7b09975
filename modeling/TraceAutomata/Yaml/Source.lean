import TraceAutomata.Yaml.Cursor

/-!
# Texts that are read

A text is read whole or in pieces. A whole text is refused at once when it holds a character that no
document may hold. Of a text in pieces only the pieces that are reached are looked at: the characters
before the first piece that cannot be read are there, and behind them stands the fault of that piece.
-/

namespace TraceAutomata.Yaml

variable [Runtime]

/-- Whether a document may hold a character. -/
def isDocumentChar (character : Char) : Bool :=
  let codePoint := Runtime.codePoint character
  character == '\t' || character == '\n' || character == '\r'
    || (0x20 ≤ codePoint && codePoint ≤ 0x7E) || codePoint == 0x85
    || (0xA0 ≤ codePoint && codePoint ≤ 0xD7FF) || (0xE000 ≤ codePoint && codePoint ≤ 0xFFFD)
    || 0x10000 ≤ codePoint

/-- The characters that can be read, and the fault behind them, if there are more that cannot. -/
structure Source where
  characters : List Char
  beyond : Option Fault := none

namespace Source

/-- The place at which a source starts. -/
def start (source : Source) : Cursor :=
  { rest := source.characters, beyond := source.beyond }

/-- A text that is looked at as a whole before it is read. -/
def whole (text : String) : Source :=
  let characters := text.toList
  if characters.all isDocumentChar then { characters } else { characters := [], beyond := some .malformed }

/-- The number of characters in a piece. -/
def pieceSize : Nat := 4096

/-- The start of the piece that holds the character of an index. The first two pieces are one. -/
def pieceStart (index : Nat) : Nat :=
  if index < 2 * pieceSize then 0 else index / pieceSize * pieceSize

/-- A text that is looked at piece by piece. -/
def inPieces (characters : List Char) (beyond : Option Fault := none) : Source :=
  match characters.findIdx? fun character => !isDocumentChar character with
  | none => { characters, beyond }
  | some index => { characters := characters.take (pieceStart index), beyond := some .malformed }

/-- The number of bytes that are decoded together. -/
def decodedTogether : Nat := 8192

/-- The bytes before those that are decoded together with the ones that show a fault. -/
def decodedBefore (fault : Text.Utf8Fault) (bytes : List UInt8) : List UInt8 :=
  match fault.problem with
  | .invalidStart => bytes.take (fault.position / decodedTogether * decodedTogether)
  | .invalidContinuation =>
    bytes.take ((fault.position + fault.count) / decodedTogether * decodedTogether)
  | .unexpectedEnd => bytes

/-- The characters before a carriage return at the end, which waits for what follows it. -/
def withoutOpenLineEnd (characters : List Char) : List Char :=
  if characters.getLast? == some '\r' then characters.dropLast else characters

/-- The stored lines of a text, read piece by piece. -/
def ofStored (bytes : List UInt8) : Source :=
  match Text.readable bytes with
  | (characters, none) => inPieces (Text.unifyLineEnds characters)
  | (_, some fault) =>
    let decoded :=
      Text.unifyLineEnds (withoutOpenLineEnd (Text.readable (decodedBefore fault bytes)).1)
    inPieces (decoded.take (pieceStart decoded.length)) (some (.encoding fault))

end Source

end TraceAutomata.Yaml
