/-!
# Runtimes

What a run depends on besides its input. Texts are made of characters, but a text may also hold a half of a
surrogate pair, which is a code point and no character. A runtime has a character that stands for each half. It takes
them from the planes in which no character is assigned, and what is said of all runtimes does not depend on which
these are.

How many calls can still be nested when something is read, written or shown is what the caller has left. And the
members of a set are listed in an order that the runtime chooses.
-/

namespace TraceAutomata

/-- A half of a surrogate pair. -/
@[ext]
structure Surrogate where
  codePoint : Nat
  notBefore : 0xD800 ≤ codePoint
  notBeyond : codePoint ≤ 0xDFFF
  deriving DecidableEq, Repr

/-- What a run finds given. -/
class Runtime where
  /-- The character that stands for a surrogate. -/
  standIn : Surrogate → Char
  /-- The surrogate that a character stands for, if it stands for one. -/
  surrogate? : Char → Option Surrogate
  surrogate?_eq_some_iff (character : Char) (half : Surrogate) :
    surrogate? character = some half ↔ standIn half = character
  /-- Stand-ins are taken from the planes four to thirteen. -/
  unassigned (half : Surrogate) : 0x40000 ≤ (standIn half).toNat ∧ (standIn half).toNat < 0xE0000
  /-- How many calls can still be nested. -/
  room : Nat
  /-- There is room for more than a few calls. -/
  roomy : 64 ≤ room
  /-- The members of a set in the order in which it lists them. Their texts tell what they are. -/
  listed : {Member : Type} → (Member → String) → List Member → List Member
  listed_perm {Member : Type} (shown : Member → String) (members : List Member) :
    (listed shown members).Perm members

namespace Runtime

variable [Runtime]

/-- The code point that stands at a place of a text. -/
def codePoint (character : Char) : Nat :=
  match surrogate? character with
  | some half => half.codePoint
  | none => character.toNat

/-- What stands in a text for a code point, which may be a surrogate. -/
def character (codePoint : Nat) : Char :=
  if isHalf : 0xD800 ≤ codePoint ∧ codePoint ≤ 0xDFFF then standIn ⟨codePoint, isHalf.1, isHalf.2⟩
  else Char.ofNat codePoint

/-- How many levels can be nested when each takes some calls, next to those that are made once. -/
def levels (once perLevel : Nat) : Nat :=
  (room - once) / perLevel

/-- A character of an assigned plane stands for itself. -/
theorem surrogate?_eq_none {character : Char} (assigned : character.toNat < 0x40000) :
    surrogate? character = none := by
  cases found : surrogate? character with
  | none => rfl
  | some half =>
    rw [surrogate?_eq_some_iff] at found
    have planes := unassigned half
    rw [found] at planes
    omega

/-- A code point that is no surrogate stands for its character. -/
theorem character_eq_ofNat {codePoint : Nat} (single : codePoint < 0xD800 ∨ 0xDFFF < codePoint) :
    character codePoint = Char.ofNat codePoint :=
  dif_neg (by omega)

theorem codePoint_eq_toNat {character : Char} (assigned : character.toNat < 0x40000) :
    codePoint character = character.toNat := by
  rw [codePoint, surrogate?_eq_none assigned]

/-- Only the stand-in of a surrogate has the code point of one. -/
theorem codePoint_cases (character : Char) :
    (∃ half, surrogate? character = some half ∧ codePoint character = half.codePoint) ∨
      codePoint character = character.toNat ∧
        (character.toNat < 0xD800 ∨ 0xDFFF < character.toNat ∧ character.toNat < 0x110000) := by
  cases found : surrogate? character with
  | some half => exact .inl ⟨half, rfl, by rw [codePoint, found]⟩
  | none => exact .inr ⟨by rw [codePoint, found], character.valid⟩

/-- What stands at a place of a text stands there for its code point. -/
theorem character_codePoint (own : Char) : character (codePoint own) = own := by
  obtain ⟨half, found, same⟩ | ⟨same, single⟩ := codePoint_cases own
  · rw [same, character, dif_pos ⟨half.notBefore, half.notBeyond⟩]
    exact (surrogate?_eq_some_iff own half).mp found
  · rw [same, character_eq_ofNat (single.imp id And.left), Char.ofNat_toNat]

end Runtime

end TraceAutomata
