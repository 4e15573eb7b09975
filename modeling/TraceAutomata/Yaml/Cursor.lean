import TraceAutomata.Document.ValueFault
import TraceAutomata.Text.Utf8

/-!
# Positions in a text

A cursor is the rest of a text together with the line and column at which it starts. Everything that
reads a text moves a cursor forward; loops over a cursor are bounded by the characters that remain. A text
may be cut off where its next piece cannot be read; then the fault of that piece stands at the end.
-/

namespace TraceAutomata.Yaml

/-- Why a text is not read: its form is wrong, a scalar in it names no value, or its bytes encode no
text. -/
inductive Fault
  | malformed
  | value (fault : ValueFault)
  | encoding (fault : Text.Utf8Fault)
  deriving DecidableEq, Repr

/-- A place in a text. `beyond` is the fault that stands at the end of the rest, if the text goes on there
but cannot be read. -/
structure Cursor where
  rest : List Char
  index : Nat := 0
  line : Nat := 0
  column : Nat := 0
  beyond : Option Fault := none

/-- Whether a character ends a line. -/
def isBreak (character : Char) : Bool :=
  character == '\n' || character == '\r' || character.toNat == 0x85
    || character.toNat == 0x2028 || character.toNat == 0x2029

/-- Whether a character is a blank. -/
def isSpace (character : Char) : Bool :=
  character == ' ' || character == '\t'

/-- Whether the next character ends a line, or there is none. -/
def endsLine (next : Option Char) : Bool :=
  next.all isBreak

/-- Whether the next character is a plain blank or ends a line, or there is none. -/
def endsWord (next : Option Char) : Bool :=
  next.all fun character => character == ' ' || isBreak character

/-- Whether the next character is a blank of any kind or ends a line, or there is none. -/
def endsToken (next : Option Char) : Bool :=
  next.all fun character => isSpace character || isBreak character

/-- Whether a character can be part of a name: a letter or digit of ASCII, a dash or an underscore. -/
def isNameChar (character : Char) : Bool :=
  character.isAlphanum || character == '-' || character == '_'

namespace Cursor

/-- The next character. -/
def next? (cursor : Cursor) : Option Char := cursor.rest.head?

/-- The character some places ahead. -/
def peek? (cursor : Cursor) (distance : Nat) : Option Char := cursor.rest[distance]?

/-- The fault that is met by going on from here: one character is always looked at ahead. -/
def blocked? (cursor : Cursor) : Option Fault :=
  match cursor.rest with
  | [] => cursor.beyond
  | [_] => cursor.beyond
  | _ => none

/-- The fault of a form that is wrong here, unless the text cannot be read up to here. -/
def malformed (cursor : Cursor) : Fault :=
  cursor.blocked?.getD .malformed

/-- Pass over one character. A byte order mark takes no column, and a carriage return right before a line
feed leaves the end of the line to it. -/
def advance (cursor : Cursor) : Cursor :=
  match cursor.rest with
  | [] => cursor
  | character :: rest =>
    let index := cursor.index + 1
    if isBreak character && !(character == '\r' && rest.head? == some '\n') then
      { cursor with rest, index, line := cursor.line + 1, column := 0 }
    else if character.toNat == 0xFEFF then { cursor with rest, index }
    else { cursor with rest, index, column := cursor.column + 1 }

/-- Pass over some characters. -/
def advanceBy (cursor : Cursor) : Nat → Cursor
  | 0 => cursor
  | count + 1 => cursor.advance.advanceBy count

/-- Pass over characters while they satisfy a test. -/
def skipWhile (test : Char → Bool) (cursor : Cursor) : Cursor :=
  go cursor.rest cursor
where
  go : List Char → Cursor → Cursor
    | [], current => current
    | character :: rest, current => if test character then go rest current.advance else current

/-- The characters ahead that satisfy a test. -/
def run (test : Char → Bool) (cursor : Cursor) : List Char :=
  cursor.rest.takeWhile test

/-- Pass over plain blanks. -/
def skipSpaces : Cursor → Cursor :=
  skipWhile (· == ' ')

/-- Pass over a comment, if one starts here. -/
def skipComment (cursor : Cursor) : Cursor :=
  if cursor.next? == some '#' then cursor.skipWhile fun character => !isBreak character else cursor

/-- Take one end of a line, if one is here: the two separators as they are, all others as a line feed. -/
def takeBreak (cursor : Cursor) : List Char × Cursor :=
  match cursor.rest with
  | '\r' :: '\n' :: _ => (['\n'], cursor.advance.advance)
  | character :: _ =>
    if !isBreak character then ([], cursor)
    else if character.toNat == 0x2028 || character.toNat == 0x2029 then ([character], cursor.advance)
    else (['\n'], cursor.advance)
  | [] => ([], cursor)

/-- Whether three characters and the end of a token stand here. -/
def hasMark (mark : List Char) (cursor : Cursor) : Bool :=
  mark.isPrefixOf cursor.rest && endsToken (cursor.peek? 3)

/-- Whether a mark between documents stands here. -/
def atDocumentMark (cursor : Cursor) : Bool :=
  cursor.hasMark ['-', '-', '-'] || cursor.hasMark ['.', '.', '.']

end Cursor

end TraceAutomata.Yaml
