import Mathlib.Data.List.Basic
import TraceAutomata.Text.Utf8

/-!
# Line ends

What is left of a text when its line ends are unified. No carriage return stays (`return_notMem_unifyLineEnds`), and
a text without one stays as it is (`unifyLineEnds_eq_self_iff`). Line ends are unified part by part where the parts
meet at another character (`unifyLineEnds_append_mark`).
-/

namespace TraceAutomata.Text

variable {text : List Char}

theorem unifyLineEnds_cons {character : Char} (other : character ≠ '\r') (rest : List Char) :
    unifyLineEnds (character :: rest) = character :: unifyLineEnds rest := by
  rw [unifyLineEnds]
  · rintro following same
    exact absurd same other
  · exact other

/-- A lone carriage return becomes a line feed. -/
theorem unifyLineEnds_return (alone : text.head? ≠ some '\n') :
    unifyLineEnds ('\r' :: text) = '\n' :: unifyLineEnds text := by
  rw [unifyLineEnds]
  rintro following rfl
  exact alone rfl

theorem return_notMem_unifyLineEnds (text : List Char) : '\r' ∉ unifyLineEnds text := by
  fun_induction unifyLineEnds text with
  | case1 => simp
  | case2 following inductionHypothesis => simpa using inductionHypothesis
  | case3 following alone inductionHypothesis => simpa using inductionHypothesis
  | case4 character following _ other inductionHypothesis =>
    simp only [List.mem_cons, not_or]
    exact ⟨fun same => other same.symm, inductionHypothesis⟩

/-- A part without carriage returns stays as it is. -/
theorem unifyLineEnds_append {front : List Char} (clean : '\r' ∉ front) (rest : List Char) :
    unifyLineEnds (front ++ rest) = front ++ unifyLineEnds rest := by
  induction front with
  | nil => rfl
  | cons character others inductionHypothesis =>
    rw [List.mem_cons, not_or] at clean
    rw [List.cons_append, unifyLineEnds_cons (Ne.symm clean.1), inductionHypothesis clean.2, List.cons_append]

/-- A text stays as it is exactly when it has no carriage return. -/
theorem unifyLineEnds_eq_self_iff : unifyLineEnds text = text ↔ '\r' ∉ text := by
  constructor
  · intro same
    rw [← same]
    exact return_notMem_unifyLineEnds text
  · intro clean
    have whole := unifyLineEnds_append clean []
    rwa [List.append_nil, unifyLineEnds, List.append_nil] at whole

/-- The parts on both sides of a character that ends no line are unified on their own. -/
theorem unifyLineEnds_append_mark {mark : Char} (noReturn : mark ≠ '\r') (noFeed : mark ≠ '\n')
    (rest : List Char) :
    unifyLineEnds (text ++ mark :: rest) = unifyLineEnds text ++ mark :: unifyLineEnds rest := by
  fun_induction unifyLineEnds text with
  | case1 => exact unifyLineEnds_cons noReturn rest
  | case2 following inductionHypothesis =>
    rw [List.cons_append, List.cons_append, unifyLineEnds, inductionHypothesis, List.cons_append]
  | case3 following alone inductionHypothesis =>
    have behind : (following ++ mark :: rest).head? ≠ some '\n' := by
      cases following with
      | nil => simpa using noFeed
      | cons first others =>
        rintro same
        exact alone others (by rw [Option.some.inj same])
    rw [List.cons_append, unifyLineEnds_return behind, inductionHypothesis, List.cons_append]
  | case4 character following _ other inductionHypothesis =>
    rw [List.cons_append, unifyLineEnds_cons other, inductionHypothesis, List.cons_append]

/-- Characters that end no line are the same before and after. -/
theorem mem_unifyLineEnds_iff {mark : Char} (noReturn : mark ≠ '\r') (noFeed : mark ≠ '\n') :
    mark ∈ unifyLineEnds text ↔ mark ∈ text := by
  fun_induction unifyLineEnds text with
  | case1 => rfl
  | case2 following inductionHypothesis => simp [inductionHypothesis, noReturn, noFeed]
  | case3 following alone inductionHypothesis => simp [inductionHypothesis, noReturn, noFeed]
  | case4 character following _ other inductionHypothesis => simp [inductionHypothesis]

/-- Line feeds come from line feeds and carriage returns. -/
theorem feed_mem_unifyLineEnds_iff : '\n' ∈ unifyLineEnds text ↔ '\n' ∈ text ∨ '\r' ∈ text := by
  fun_induction unifyLineEnds text with
  | case1 => simp
  | case2 following inductionHypothesis => simp
  | case3 following alone inductionHypothesis => simp
  | case4 character following _ other inductionHypothesis =>
    have kept : '\r' ≠ character := fun same => other same.symm
    simp [inductionHypothesis, kept, or_assoc]

end TraceAutomata.Text
