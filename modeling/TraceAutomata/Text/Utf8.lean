import TraceAutomata.Runtime
import TraceAutomata.Text.Numeral

/-!
# Texts stored as bytes

The strict reading of UTF-8, which names the first bytes that are no encoding of a character, the
reading of stored lines, where every line ends in a line feed whatever the stored line ending is, and the writing
of a text, which names the first surrogates in it.
-/

namespace TraceAutomata.Text

/-- Why bytes are not UTF-8. -/
inductive Utf8Problem
  | invalidStart
  | invalidContinuation
  | unexpectedEnd
  deriving DecidableEq, Repr

/-- The wording of a problem. -/
def Utf8Problem.message : Utf8Problem → String
  | .invalidStart => "invalid start byte"
  | .invalidContinuation => "invalid continuation byte"
  | .unexpectedEnd => "unexpected end of data"

/-- The first bytes of a content that encode no character: `count` bytes from `position`. -/
structure Utf8Fault where
  first : UInt8
  position : Nat
  count : Nat
  problem : Utf8Problem
  deriving DecidableEq, Repr

/-- The full message of a fault. -/
def Utf8Fault.message (fault : Utf8Fault) : String :=
  let place :=
    if fault.count == 1 then
      "byte 0x" ++ lowerHex 2 fault.first.toNat ++ " in position " ++ decimal fault.position
    else
      "bytes in position " ++ decimal fault.position ++ "-"
        ++ decimal (fault.position + fault.count - 1)
  "'utf-8' codec can't decode " ++ place ++ ": " ++ fault.problem.message

/-- Whether a byte can follow the start byte of a character. -/
def isContinuation (byte : UInt8) : Bool :=
  0x80 ≤ byte && byte ≤ 0xBF

/-- The six value bits of a continuation byte. -/
def continuationBits (byte : UInt8) : Nat :=
  byte.toNat % 0x40

/-- What the bytes at one position hold: a character of some width, or bytes that are none. -/
inductive Utf8Step
  | character (decoded : Char) (width : Nat)
  | fault (problem : Utf8Problem) (count : Nat)

/-- The second byte that a start byte of three or four allows: overlong forms, surrogates and code
points beyond the last are refused here. -/
def secondByteAllowed (start second : UInt8) : Bool :=
  isContinuation second &&
    !((start == 0xE0 && second < 0xA0) || (start == 0xED && 0xA0 ≤ second) ||
      (start == 0xF0 && second < 0x90) || (start == 0xF4 && 0x90 ≤ second))

/-- Read one character from the front of some bytes. -/
def utf8Step : List UInt8 → Utf8Step
  | [] => .fault .unexpectedEnd 0
  | start :: following =>
    if start < 0x80 then .character (Char.ofNat start.toNat) 1
    else if start < 0xC2 || 0xF4 < start then .fault .invalidStart 1
    else if start < 0xE0 then
      match following with
      | [] => .fault .unexpectedEnd 1
      | second :: _ =>
        if isContinuation second then
          .character (Char.ofNat (start.toNat % 0x20 * 0x40 + continuationBits second)) 2
        else .fault .invalidContinuation 1
    else if start < 0xF0 then
      match following with
      | [] => .fault .unexpectedEnd 1
      | second :: rest =>
        if !secondByteAllowed start second then .fault .invalidContinuation 1
        else
          match rest with
          | [] => .fault .unexpectedEnd 2
          | third :: _ =>
            if isContinuation third then
              .character (Char.ofNat (start.toNat % 0x10 * 0x1000 + continuationBits second * 0x40
                + continuationBits third)) 3
            else .fault .invalidContinuation 2
    else
      match following with
      | [] => .fault .unexpectedEnd 1
      | second :: rest =>
        if !secondByteAllowed start second then .fault .invalidContinuation 1
        else
          match rest with
          | [] => .fault .unexpectedEnd 2
          | third :: last =>
            if !isContinuation third then .fault .invalidContinuation 2
            else
              match last with
              | [] => .fault .unexpectedEnd 3
              | fourth :: _ =>
                if isContinuation fourth then
                  .character (Char.ofNat (start.toNat % 0x08 * 0x40000
                    + continuationBits second * 0x1000 + continuationBits third * 0x40
                    + continuationBits fourth)) 4
                else .fault .invalidContinuation 3

/-- Read characters up to the end of the bytes or the first that encode none. `skip` counts the bytes
that the last character still covers; `read` holds the characters so far, last first. -/
def readableFrom (position skip : Nat) (read : List Char) :
    List UInt8 → List Char × Option Utf8Fault
  | [] => (read.reverse, none)
  | byte :: following =>
    match skip with
    | remaining + 1 => readableFrom (position + 1) remaining read following
    | 0 =>
      match utf8Step (byte :: following) with
      | .character decoded width =>
        readableFrom (position + 1) (width - 1) (decoded :: read) following
      | .fault problem count => (read.reverse, some ⟨byte, position, count, problem⟩)

/-- The characters that bytes encode before the first bytes that encode none, and the fault of those. -/
def readable (bytes : List UInt8) : List Char × Option Utf8Fault :=
  readableFrom 0 0 [] bytes

/-- The text that bytes encode, or the first bytes that encode nothing. -/
def decodeUtf8 (bytes : List UInt8) : Except Utf8Fault String :=
  match readable bytes with
  | (characters, none) => .ok (String.ofList characters)
  | (_, some fault) => .error fault

/-- The bytes that encode a text of characters. -/
def encodeUtf8 (text : String) : List UInt8 :=
  text.toUTF8.toList

/-! ## Surrogates -/

/-- The first surrogates of a text that cannot be encoded: `count` code points from `position`. -/
structure EncodeFault where
  first : Surrogate
  position : Nat
  count : Nat
  deriving DecidableEq, Repr

/-- The full message of a fault. -/
def EncodeFault.message (fault : EncodeFault) : String :=
  let place :=
    if fault.count == 1 then
      "character '\\u" ++ lowerHex 4 fault.first.codePoint ++ "' in position " ++ decimal fault.position
    else
      "characters in position " ++ decimal fault.position ++ "-"
        ++ decimal (fault.position + fault.count - 1)
  "'utf-8' codec can't encode " ++ place ++ ": surrogates not allowed"

section Encoding

variable [Runtime]

/-- Whether a surrogate stands at a place of a text. -/
def isSurrogate (character : Char) : Bool :=
  (Runtime.surrogate? character).isSome

/-- The first surrogate that is not allowed in a text, with those that follow it directly. -/
def encodeFaultFrom? (isAllowed : Surrogate → Bool) (position : Nat) : List Char → Option EncodeFault
  | [] => none
  | character :: following =>
    match Runtime.surrogate? character with
    | none => encodeFaultFrom? isAllowed (position + 1) following
    | some half =>
      if isAllowed half then encodeFaultFrom? isAllowed (position + 1) following
      else some ⟨half, position, (following.takeWhile isSurrogate).length + 1⟩

/-- The bytes that encode a text, unless a surrogate stands in it. -/
def encode (text : String) : Except EncodeFault (List UInt8) :=
  match encodeFaultFrom? (fun _ => false) 0 text.toList with
  | some fault => .error fault
  | none => .ok (encodeUtf8 text)

end Encoding

/-! ## Lines -/

/-- Turn each carriage return with its line feed, and each lone carriage return, into a line feed. -/
def unifyLineEnds : List Char → List Char
  | [] => []
  | '\r' :: '\n' :: following => '\n' :: unifyLineEnds following
  | '\r' :: following => '\n' :: unifyLineEnds following
  | character :: following => character :: unifyLineEnds following

/-- The text of stored lines. -/
def decodeLines (bytes : List UInt8) : Except Utf8Fault String :=
  (decodeUtf8 bytes).map fun text => String.ofList (unifyLineEnds text.toList)

end TraceAutomata.Text
