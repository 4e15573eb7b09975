import TraceAutomata.Runtime
import TraceAutomata.Text.Numeral
import TraceAutomata.Yaml.Resolution

/-!
# Styles of written texts

A text is written plain where the reader takes it for the same text again, else between single quotes
where these can hold it, else between double quotes, which can hold every text. The order of preference
is `Style.ofText`.
-/

namespace TraceAutomata.Yaml

/-- The ways to write a text. -/
inductive Style
  | plain
  | singleQuoted
  | doubleQuoted
  deriving DecidableEq, Repr

/-- Whether a character stands for itself in every style: the printable part of ASCII. -/
def isPlainChar (character : Char) : Bool :=
  0x20 ≤ character.toNat && character.toNat ≤ 0x7E

/-- Whether a blank or nothing comes next. -/
def blankFollows (rest : List Char) : Bool :=
  match rest with
  | [] => true
  | next :: _ => next == ' '

/-- Whether a text starts like a marker between documents. -/
def startsLikeMarker (text : List Char) : Bool :=
  ['-', '-', '-'].isPrefixOf text || ['.', '.', '.'].isPrefixOf text

/-- The characters that have a meaning of their own at the start of a scalar, whatever follows. -/
def indicators : List Char :=
  ['#', ',', '[', ']', '\x7b', '\x7d', '&', '*', '!', '|', '>', Char.ofNat 0x27, '"', '%', '@',
    Char.ofNat 0x60]

/-- Whether the first character of a text would be taken for structure. -/
def startsLikeStructure : List Char → Bool
  | [] => false
  | first :: rest =>
    indicators.contains first || ((first == '-' || first == '?' || first == ':') && blankFollows rest)

/-- Whether a colon that ends a key or a hash that starts a comment is among some characters.
`afterBlank` says whether a blank is before them. -/
def holdsStructure (afterBlank : Bool) : List Char → Bool
  | [] => false
  | character :: rest =>
    (character == ':' && blankFollows rest) || (character == '#' && afterBlank)
      || holdsStructure (character == ' ') rest

/-- Whether a text can be written plain. -/
def allowsPlain (text : List Char) : Bool :=
  Kind.ofPlain text == .text && text.all isPlainChar && text.head? != some ' '
    && text.getLast? != some ' ' && !startsLikeMarker text && !startsLikeStructure text
    && !holdsStructure false (text.drop 1)

/-- Whether a blank and a line break are neighbours somewhere. -/
def holdsBlankAtBreak : List Char → Bool
  | first :: second :: rest =>
    (first == ' ' && second == '\n') || (first == '\n' && second == ' ')
      || holdsBlankAtBreak (second :: rest)
  | _ => false

/-- Whether a text can be written between single quotes. -/
def allowsSingleQuoted (text : List Char) : Bool :=
  text.all (fun character => character == '\n' || isPlainChar character) && !holdsBlankAtBreak text

/-- The style in which a text is written: the first that can hold it. -/
def Style.ofText (text : List Char) : Style :=
  if allowsPlain text then .plain
  else if allowsSingleQuoted text then .singleQuoted
  else .doubleQuoted

/-- The short escapes of characters between double quotes. -/
def shortEscapes : List (Nat × Char) :=
  [(0x00, '0'), (0x07, 'a'), (0x08, 'b'), (0x09, 't'), (0x0A, 'n'), (0x0B, 'v'), (0x0C, 'f'),
    (0x0D, 'r'), (0x1B, 'e'), (0x22, '"'), (0x5C, '\\'), (0x85, 'N'), (0xA0, '_'), (0x2028, 'L'),
    (0x2029, 'P')]

/-- The escape of a character between double quotes, if it does not stand for itself. -/
def escape? [Runtime] (character : Char) : Option (List Char) :=
  let codePoint := Runtime.codePoint character
  match shortEscapes.find? fun entry => entry.1 == codePoint with
  | some entry => some ['\\', entry.2]
  | none =>
    if isPlainChar character then none
    else if codePoint ≤ 0xFF then some ('\\' :: 'x' :: (Text.upperHex 2 codePoint).toList)
    else if codePoint ≤ 0xFFFF then some ('\\' :: 'u' :: (Text.upperHex 4 codePoint).toList)
    else some ('\\' :: 'U' :: (Text.upperHex 8 codePoint).toList)

end TraceAutomata.Yaml
