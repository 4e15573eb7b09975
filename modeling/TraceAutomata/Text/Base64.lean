/-!
# Bytes as letters

Three bytes as four letters of an alphabet of sixty-four, each of which stands for six bits. A sign of
equality stands for a letter that the last group does not need. Reading passes over every other character
and stops at the last such sign of a group.
-/

namespace TraceAutomata.Text.Base64

/-- The letters in the order of their values. -/
def alphabet : List Char :=
  "ABCDEFGHIJKLMNOPQRSTUVWXYZabcdefghijklmnopqrstuvwxyz0123456789+/".toList

/-- The letter of a value. -/
def letter (value : Nat) : Char :=
  (alphabet[value]?).getD '='

/-- The value of a letter. -/
def value? (character : Char) : Option Nat :=
  alphabet.findIdx? (· == character)

/-- The letters of some bytes. -/
def encode : List UInt8 → List Char
  | [] => []
  | [first] =>
    let bits := first.toNat * 0x10
    [letter (bits / 0x40), letter (bits % 0x40), '=', '=']
  | [first, second] =>
    let bits := (first.toNat * 0x100 + second.toNat) * 4
    [letter (bits / 0x1000), letter (bits / 0x40 % 0x40), letter (bits % 0x40), '=']
  | first :: second :: third :: rest =>
    let bits := (first.toNat * 0x100 + second.toNat) * 0x100 + third.toNat
    letter (bits / 0x40000) :: letter (bits / 0x1000 % 0x40) :: letter (bits / 0x40 % 0x40)
      :: letter (bits % 0x40) :: encode rest

/-- The most letters in a line. -/
def lineLength : Nat := 76

/-- Letters in lines, each ended by a line feed, after some letters of a line. -/
def inLines (written : Nat) : List Char → List Char
  | [] => if written == 0 then [] else ['\n']
  | first :: rest =>
    if written + 1 == lineLength then first :: '\n' :: inLines 0 rest
    else first :: inLines (written + 1) rest

/-- The letters of some bytes in lines. -/
def encodeLines (bytes : List UInt8) : List Char :=
  inLines 0 (encode bytes)

/-- Read letters from a place in their group on: the bytes so far, last first, the number of letters in the
group, the value of the bits that are left of them, and the signs of equality right before. -/
def decodeFrom (read : List UInt8) (place left signs : Nat) : List Char → Option (List UInt8)
  | [] => if place == 0 then some read.reverse else none
  | character :: rest =>
    if character == '=' then
      if place < 2 then decodeFrom read place left signs rest
      else if 4 ≤ place + signs + 1 then some read.reverse
      else decodeFrom read place left (signs + 1) rest
    else
      match value? character with
      | none => decodeFrom read place left signs rest
      | some value =>
        match place with
        | 0 => decodeFrom read 1 value 0 rest
        | 1 => decodeFrom (UInt8.ofNat (left * 4 + value / 0x10) :: read) 2 (value % 0x10) 0 rest
        | 2 => decodeFrom (UInt8.ofNat (left * 0x10 + value / 4) :: read) 3 (value % 4) 0 rest
        | _ => decodeFrom (UInt8.ofNat (left * 0x40 + value) :: read) 0 0 0 rest

/-- The bytes that some letters stand for, unless their last group is not complete. -/
def decode? (text : List Char) : Option (List UInt8) :=
  decodeFrom [] 0 0 0 text

end TraceAutomata.Text.Base64
