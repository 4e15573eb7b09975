import TraceAutomata.Runtime

/-!
# The standard runtime

The runtime of the program: a surrogate is stood for by the character at its own place in plane thirteen, a thousand
calls can be nested, of which the caller has made a few, and a set lists its members as they were put into it.
-/

namespace TraceAutomata.Runtime

/-- The character at the place of a surrogate in plane thirteen. -/
def inPlaneThirteen (half : Surrogate) : Char :=
  Char.ofNat (0xD0000 + half.codePoint)

theorem toNat_inPlaneThirteen (half : Surrogate) :
    (inPlaneThirteen half).toNat = 0xD0000 + half.codePoint := by
  have valid : (0xD0000 + half.codePoint).isValidChar := by
    have within := half.notBeyond
    exact .inr ⟨by omega, by omega⟩
  rw [inPlaneThirteen, Char.ofNat, dif_pos valid]
  rfl

/-- The surrogate at the place of a character of plane thirteen. -/
def fromPlaneThirteen? (character : Char) : Option Surrogate :=
  if isHalf : 0xDD800 ≤ character.toNat ∧ character.toNat ≤ 0xDDFFF then
    some ⟨character.toNat - 0xD0000, by omega, by omega⟩
  else none

theorem fromPlaneThirteen?_eq_some_iff (character : Char) (half : Surrogate) :
    fromPlaneThirteen? character = some half ↔ inPlaneThirteen half = character := by
  have place := toNat_inPlaneThirteen half
  constructor
  · intro found
    unfold fromPlaneThirteen? at found
    split at found
    · obtain rfl := Option.some.inj found
      rw [← Char.toNat_inj, place]
      exact Nat.add_sub_cancel' (by omega)
    · contradiction
  · intro taken
    have within := half.notBefore
    have beyond := half.notBeyond
    rw [taken] at place
    have isHalf : 0xDD800 ≤ character.toNat ∧ character.toNat ≤ 0xDDFFF := by omega
    have same : (⟨character.toNat - 0xD0000, by omega, by omega⟩ : Surrogate) = half := by
      ext
      exact Nat.sub_eq_of_eq_add (place.trans (Nat.add_comm _ _))
    rw [← same]
    exact dif_pos isHalf

/-- A runtime in which a thousand calls can be nested and the caller has made ten. -/
scoped instance standard : Runtime where
  standIn := inPlaneThirteen
  surrogate? := fromPlaneThirteen?
  surrogate?_eq_some_iff := fromPlaneThirteen?_eq_some_iff
  unassigned half := by
    have within := half.notBefore
    have beyond := half.notBeyond
    rw [toNat_inPlaneThirteen]
    omega
  room := 990
  roomy := by decide
  listed _ members := members
  listed_perm _ members := .refl members

end TraceAutomata.Runtime
