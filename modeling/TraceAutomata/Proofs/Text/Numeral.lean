import Mathlib.Data.List.Basic
import TraceAutomata.Text.Numeral

/-!
# Laws of numerals

Different numbers have different decimal numerals, and a numeral behind a mark that is no digit can be read
off the end of a text.
-/

namespace TraceAutomata.Text

section Marks

variable {α : Type} {mark : α} {left right rest other : List α}

/-- A text is read off up to the first of some marks. -/
theorem append_cons_cancel (clean : mark ∉ left) (otherClean : mark ∉ right)
    (same : left ++ mark :: rest = right ++ mark :: other) : left = right ∧ rest = other := by
  rcases List.append_eq_append_iff.mp same with ⟨middle, rfl, split⟩ | ⟨middle, rfl, split⟩
  · cases middle with
    | nil => simpa using split
    | cons first more =>
      obtain ⟨rfl, _⟩ := List.cons.inj split
      simp at otherClean
  · cases middle with
    | nil => simpa [eq_comm] using split
    | cons first more =>
      obtain ⟨rfl, _⟩ := List.cons.inj split
      simp at clean

/-- A text is read off back to the last of some marks. -/
theorem append_cons_cancel_right (clean : mark ∉ rest) (otherClean : mark ∉ other)
    (same : left ++ mark :: rest = right ++ mark :: other) : left = right ∧ rest = other := by
  have reversed := congrArg List.reverse same
  simp only [List.reverse_append, List.reverse_cons, List.append_assoc, List.singleton_append] at reversed
  obtain ⟨rests, lefts⟩ := append_cons_cancel (by simpa using clean) (by simpa using otherClean) reversed
  exact ⟨List.reverse_inj.mp lefts, List.reverse_inj.mp rests⟩

end Marks

/-- Different numbers have different digits. -/
theorem decimalDigits_injective : Function.Injective decimalDigits := by
  intro left right same
  have values := congrArg (Nat.ofDigitChars 10 · 0) same
  simpa [decimalDigits, Nat.ofDigitChars_ten_toDigits] using values

/-- A natural number has the same numeral as an integer. -/
theorem toList_signedDecimal {number : Int} (natural : 0 ≤ number) :
    (signedDecimal number).toList = decimalDigits number.toNat := by
  cases number with
  | ofNat number => simp [signedDecimal, decimal]
  | negSucc number => exact absurd natural (Int.negSucc_not_nonneg number).mp

/-- A negative number has the numeral of its magnitude behind a minus. -/
theorem toList_signedDecimal_of_neg {number : Int} (negative : number < 0) :
    (signedDecimal number).toList = '-' :: decimalDigits number.natAbs := by
  cases number with
  | ofNat number => exact absurd negative (Int.not_lt.mpr (Int.natCast_nonneg number))
  | negSucc number => simp [signedDecimal, decimal]

/-- Only the numeral of zero starts with a zero. -/
theorem head?_decimalDigits_ne {number : Nat} (positive : 0 < number) :
    (decimalDigits number).head? ≠ some '0' := by
  induction number using Nat.strongRecOn with
  | ind number inductionHypothesis =>
    by_cases small : number < 10
    · have digits : ∀ digit < 10, 0 < digit → [Nat.digitChar digit].head? ≠ some '0' := by decide
      rw [decimalDigits, Nat.toDigits_of_lt_base small]
      exact digits number small positive
    · have large : 10 ≤ number := Nat.not_lt.mp small
      have earlier := inductionHypothesis (number / 10) (by omega) (by omega)
      rw [decimalDigits, Nat.toDigits_of_base_le (by decide) large, List.head?_append_of_ne_nil _
        Nat.toDigits_ne_nil]
      exact earlier

/-! ## Reading digits -/

section Digits

variable {base : Nat} (least : 1 < base) (most : base ≤ 16)

/-- A digit in a base up to sixteen is read as its value. -/
theorem digitValue?_digitChar {digit : Nat} (small : digit < 16) :
    digitValue? (Nat.digitChar digit) = some digit := by
  revert digit
  decide

theorem ofDigits_concat (digits : List Char) (last : Char) :
    ofDigits base (digits ++ [last]) = ofDigits base digits * base + (digitValue? last).getD 0 := by
  rw [ofDigits, List.foldl_append]
  rfl

include least most

/-- The digits of a number are read as the number. -/
theorem ofDigits_toDigits (number : Nat) : ofDigits base (Nat.toDigits base number) = number := by
  induction number using Nat.strongRecOn with
  | ind number inductionHypothesis =>
    by_cases small : number < base
    · rw [Nat.toDigits_of_lt_base small]
      simp [ofDigits, digitValue?_digitChar (Nat.lt_of_lt_of_le small most)]
    · have large : base ≤ number := Nat.not_lt.mp small
      have positive : 0 < base := Nat.zero_lt_of_lt least
      have last : number % base < 16 := Nat.lt_of_lt_of_le (Nat.mod_lt _ positive) most
      rw [Nat.toDigits_of_base_le least large, ofDigits_concat, digitValue?_digitChar last,
        inductionHypothesis _ (Nat.div_lt_self (Nat.lt_of_lt_of_le positive large) least)]
      exact Nat.div_add_mod' number base

/-- The digits of a number in a base up to sixteen are hexadecimal digits. -/
theorem isHexDigit_of_mem_toDigits (number : Nat) :
    ∀ digit ∈ Nat.toDigits base number, isHexDigit digit = true := by
  induction number using Nat.strongRecOn with
  | ind number inductionHypothesis =>
    intro digit among
    by_cases small : number < base
    · rw [Nat.toDigits_of_lt_base small, List.mem_singleton] at among
      rw [among, isHexDigit, digitValue?_digitChar (Nat.lt_of_lt_of_le small most)]
      rfl
    · have large : base ≤ number := Nat.not_lt.mp small
      have positive : 0 < base := Nat.zero_lt_of_lt least
      rw [Nat.toDigits_of_base_le least large, List.mem_append, List.mem_singleton] at among
      obtain earlier | rfl := among
      · exact inductionHypothesis _ (Nat.div_lt_self (Nat.lt_of_lt_of_le positive large) least) digit
          earlier
      · rw [isHexDigit, digitValue?_digitChar (Nat.lt_of_lt_of_le (Nat.mod_lt _ positive) most)]
        rfl

end Digits

/-- Zeros in front do not change what digits are read as. -/
theorem ofDigits_padLeft (base width : Nat) (digits : List Char) :
    ofDigits base (padLeft '0' width digits) = ofDigits base digits := by
  have zeros : ∀ count, ofDigits base (List.replicate count '0' ++ digits) = ofDigits base digits := by
    intro count
    induction count with
    | zero => rfl
    | succ count inductionHypothesis =>
      rw [List.replicate_succ, List.cons_append, ofDigits, List.foldl_cons]
      simpa [ofDigits, digitValue?] using inductionHypothesis
  exact zeros _

/-- A hexadecimal numeral of four places has four digits and is read as its number. -/
theorem lowerHex_four {number : Nat} (small : number < 0x10000) :
    (lowerHex 4 number).toList.length = 4 ∧ (lowerHex 4 number).toList.all isHexDigit = true ∧
      ofDigits 16 (lowerHex 4 number).toList = number := by
  have short : (Nat.toDigits 16 number).length ≤ 4 :=
    (Nat.length_toDigits_le_iff (by decide) (by decide)).mpr (by simpa using small)
  rw [lowerHex, String.toList_ofList]
  refine ⟨?_, ?_, ?_⟩
  · rw [padLeft, List.length_append, List.length_replicate]
    omega
  · rw [List.all_eq_true]
    intro digit among
    obtain zero | inside := List.mem_append.mp among
    · rw [(List.mem_replicate.mp zero).2]
      decide
    · exact isHexDigit_of_mem_toDigits (by decide) (by decide) number digit inside
  · rw [ofDigits_padLeft, ofDigits_toDigits (by decide) (by decide)]

end TraceAutomata.Text
