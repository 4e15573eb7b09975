import TraceAutomata.Json.Reader
import TraceAutomata.Json.Writer
import TraceAutomata.Proofs.Text.Numeral

/-!
# JSON scalars are read back

A string is read from what was written for it: an escape is read as the character it was written for, also where
this takes two units. Only halves of surrogate pairs that stand side by side are read as one character, so this is
said of texts in which no two halves make a pair (`Unpaired`). The digits of an integer are read as its number when
nothing behind them goes on with it.
-/

namespace TraceAutomata.Json

/-! ## Escaped units -/

/-- Four digits are read as the unit they write. -/
theorem readUnit_lowerHex {unit : Nat} (small : unit < 0x10000) (rest : List Char) :
    readUnit ((Text.lowerHex 4 unit).toList ++ rest) = .ok (unit, rest) := by
  obtain ⟨four, digits, value⟩ := Text.lowerHex_four small
  generalize (Text.lowerHex 4 unit).toList = written at four digits value ⊢
  match written, four with
  | [first, second, third, fourth], _ =>
    simp only [List.cons_append, List.nil_append, readUnit, digits, if_true, value]

/-- The escape of a low surrogate is at the front of a text. -/
def StartsLow (text : List Char) : Prop :=
  ∃ digits unit after, text = '\\' :: 'u' :: digits ∧ readUnit digits = .ok (unit, after) ∧
    0xDC00 ≤ unit ∧ unit ≤ 0xDFFF

/-- The closing quote ends a text. -/
theorem not_startsLow_quote (rest : List Char) : ¬StartsLow ('"' :: rest) := by
  rintro ⟨digits, unit, after, front, -⟩
  cases front

/-- Only the escape of a low surrogate starts like one. -/
theorem isLow_of_startsLow {unit : Nat} (small : unit < 0x10000) {rest : List Char}
    (starts : StartsLow (unitEscape unit ++ rest)) : 0xDC00 ≤ unit ∧ unit ≤ 0xDFFF := by
  obtain ⟨digits, found, after, front, read, low⟩ := starts
  rw [unitEscape, List.cons_append, List.cons_append] at front
  obtain rfl := (List.cons.inj (List.cons.inj front).2).2
  rw [readUnit_lowerHex small] at read
  obtain ⟨rfl, rfl⟩ := Prod.mk.inj (Except.ok.inj read)
  exact low

section Strings

variable [Runtime]

/-! ## Halves of pairs -/

/-- Two halves of surrogate pairs that make a pair where they stand side by side. -/
def Pairs (first second : Char) : Prop :=
  ∃ high low, Runtime.surrogate? first = some high ∧ Runtime.surrogate? second = some low ∧
    high.codePoint ≤ 0xDBFF ∧ 0xDC00 ≤ low.codePoint

/-- No two halves make a pair in a text. -/
def Unpaired (text : String) : Prop :=
  text.toList.IsChain fun first second => ¬Pairs first second

/-- A text of characters has no halves in it. -/
theorem unpaired_of_assigned {text : String}
    (assigned : (text.toList.all fun character => character.toNat < 0x40000) = true) : Unpaired text := by
  simp only [List.all_eq_true, decide_eq_true_eq] at assigned
  unfold Unpaired
  generalize text.toList = characters at assigned ⊢
  induction characters with
  | nil => exact .nil
  | cons first rest inductionHypothesis =>
    obtain ⟨own, others⟩ := List.forall_mem_cons.mp assigned
    have single : ∀ second, ¬Pairs first second := by
      rintro second ⟨high, low, found, -⟩
      rw [Runtime.surrogate?_eq_none own] at found
      cases found
    cases rest with
    | nil => exact .singleton first
    | cons second following => exact .cons_cons (single second) (inductionHypothesis others)

/-! ## Escapes -/

/-- An escaped unit is read as the character it makes with what follows. -/
theorem readString_unitEscape (read : List Char) (bound : Nat) {unit : Nat} (small : unit < 0x10000)
    (rest : List Char) :
    readString read (bound + 1) (unitEscape unit ++ rest) =
      readString ((joinUnits unit rest).1 :: read) bound (joinUnits unit rest).2 := by
  have unitRead := readUnit_lowerHex small rest
  rw [unitEscape, List.cons_append, List.cons_append, readString]
  simp [unitRead, bind, Except.bind]

/-- A unit stands alone unless it is a high surrogate with a low one behind it. -/
theorem joinUnits_alone {unit : Nat} {rest : List Char}
    (alone : 0xD800 ≤ unit → unit ≤ 0xDBFF → ¬StartsLow rest) :
    joinUnits unit rest = (Runtime.character unit, rest) := by
  unfold joinUnits
  dsimp only
  split
  · rename_i high
    have apart : ¬StartsLow rest := by
      simp only [Bool.and_eq_true, decide_eq_true_eq] at high
      exact alone high.1 high.2
    split
    · rename_i digits
      split
      · rename_i second after found
        refine if_neg fun low => apart ?_
        simp only [Bool.and_eq_true, decide_eq_true_eq] at low
        exact ⟨digits, second, after, rfl, found, low⟩
      · rfl
    · rfl
  · rfl

/-- The two surrogates of a code point beyond the first plane are read as its character. -/
theorem joinUnits_pair {offset : Nat} (small : offset < 0x100000) (rest : List Char) :
    joinUnits (0xD800 + offset / 0x400) (unitEscape (0xDC00 + offset % 0x400) ++ rest) =
      (Char.ofNat (0x10000 + offset), rest) := by
  have quotient : offset / 0x400 < 0x400 := by omega
  have remainder : offset % 0x400 < 0x400 := by omega
  have high : 0xD800 ≤ 0xD800 + offset / 0x400 ∧ 0xD800 + offset / 0x400 ≤ 0xDBFF := by omega
  have low : 0xDC00 ≤ 0xDC00 + offset % 0x400 ∧ 0xDC00 + offset % 0x400 ≤ 0xDFFF := by omega
  have whole : 0x10000 + (0xD800 + offset / 0x400 - 0xD800) * 0x400 + (0xDC00 + offset % 0x400 - 0xDC00) =
      0x10000 + offset := by omega
  have second : readUnit ((Text.lowerHex 4 (0xDC00 + offset % 0x400)).toList ++ rest) =
      .ok (0xDC00 + offset % 0x400, rest) := readUnit_lowerHex (by omega) rest
  rw [unitEscape, List.cons_append, List.cons_append, joinUnits, if_pos (by simpa using high)]
  simp only [second]
  rw [if_pos (by simpa using low), whole]

/-- What is written for a character: its one-letter escape, itself, or the escapes of its units. -/
inductive Encodes (character : Char) : List Char → Prop
  | named {letter : Char} (notUnit : letter ≠ 'u') (means : escapedChar? letter = some character) :
      Encodes character ['\\', letter]
  | itself (visible : 0x20 ≤ character.toNat) (noQuote : character ≠ '"') (noEscape : character ≠ '\\') :
      Encodes character [character]
  | unit (small : Runtime.codePoint character ≤ 0xFFFF) :
      Encodes character (unitEscape (Runtime.codePoint character))
  | pair {offset : Nat} (large : Runtime.codePoint character = 0x10000 + offset) :
      Encodes character (unitEscape (0xD800 + offset / 0x400) ++ unitEscape (0xDC00 + offset % 0x400))

/-- A code point of the first plane that is no surrogate is the one of its character. -/
theorem eq_ofNat_of_codePoint {character : Char} {code : Nat} (same : Runtime.codePoint character = code)
    (single : code < 0xD800 ∨ 0xDFFF < code) : character = Char.ofNat code := by
  rw [← Runtime.character_eq_ofNat single, ← same, Runtime.character_codePoint]

/-- There are sixteen planes beyond the first. -/
theorem offset_lt {character : Char} {offset : Nat} (large : Runtime.codePoint character = 0x10000 + offset) :
    offset < 0x100000 := by
  obtain ⟨half, -, same⟩ | ⟨same, single⟩ := Runtime.codePoint_cases character
  · have within := half.notBeyond
    omega
  · omega

theorem encodes_writtenChar (character : Char) : Encodes character (writtenChar character) := by
  unfold writtenChar
  simp only [beq_iff_eq, Bool.and_eq_true, decide_eq_true_eq]
  by_cases quote : character = '"'
  · subst quote
    exact .named (by decide) rfl
  by_cases backslash : character = '\\'
  · subst backslash
    exact .named (by decide) rfl
  by_cases lineFeed : character = '\n'
  · subst lineFeed
    exact .named (by decide) rfl
  by_cases carriageReturn : character = '\r'
  · subst carriageReturn
    exact .named (by decide) rfl
  by_cases tab : character = '\t'
  · subst tab
    exact .named (by decide) rfl
  rw [if_neg quote, if_neg backslash, if_neg lineFeed, if_neg carriageReturn, if_neg tab]
  by_cases backspace : Runtime.codePoint character = 0x08
  · rw [if_pos backspace]
    exact .named (by decide) (congrArg some (eq_ofNat_of_codePoint backspace (by decide)).symm)
  by_cases formFeed : Runtime.codePoint character = 0x0C
  · rw [if_neg backspace, if_pos formFeed]
    exact .named (by decide) (congrArg some (eq_ofNat_of_codePoint formFeed (by decide)).symm)
  rw [if_neg backspace, if_neg formFeed]
  by_cases plain : 0x20 ≤ Runtime.codePoint character ∧ Runtime.codePoint character ≤ 0x7E
  · rw [if_pos plain]
    obtain ⟨half, -, same⟩ | ⟨same, -⟩ := Runtime.codePoint_cases character
    · have within := half.notBefore
      omega
    · exact .itself (same ▸ plain.1) quote backslash
  rw [if_neg plain]
  by_cases firstPlane : Runtime.codePoint character ≤ 0xFFFF
  · rw [if_pos firstPlane]
    exact .unit firstPlane
  rw [if_neg firstPlane]
  exact .pair (by omega)

/-- Only what is written for a low surrogate starts like one. -/
theorem Encodes.exists_low {character : Char} {written rest : List Char} (encodes : Encodes character written)
    (starts : StartsLow (written ++ rest)) :
    ∃ low, Runtime.surrogate? character = some low ∧ 0xDC00 ≤ low.codePoint := by
  cases encodes with
  | named notUnit means =>
    obtain ⟨digits, unit, after, front, -⟩ := starts
    exact absurd (List.cons.inj (List.cons.inj front).2).1 notUnit
  | itself visible noQuote noEscape =>
    obtain ⟨digits, unit, after, front, -⟩ := starts
    exact absurd (List.cons.inj front).1 noEscape
  | unit small =>
    have low := isLow_of_startsLow (by omega) starts
    obtain ⟨half, found, same⟩ | ⟨same, single⟩ := Runtime.codePoint_cases character
    · exact ⟨half, found, same ▸ low.1⟩
    · omega
  | @pair offset large =>
    have small := offset_lt large
    rw [List.append_assoc] at starts
    have low := isLow_of_startsLow (by omega) starts
    omega

/-- A character is read from what is written for it, unless it makes a pair with what comes after it. -/
theorem readString_of_encodes {character : Char} {written : List Char} (encodes : Encodes character written)
    (read : List Char) (bound : Nat) {rest : List Char}
    (alone : ∀ high, Runtime.surrogate? character = some high → high.codePoint ≤ 0xDBFF → ¬StartsLow rest) :
    readString read (bound + 1) (written ++ rest) = readString (character :: read) bound rest := by
  cases encodes with
  | @named letter notUnit means =>
    rw [List.cons_append, List.singleton_append, readString]
    · simp [means]
    · simpa using notUnit
  | itself visible noQuote noEscape =>
    have printable : ¬character.toNat < 0x20 := Nat.not_lt.mpr visible
    rw [List.singleton_append, readString.eq_def]
    simp [noQuote, noEscape, printable]
  | unit small =>
    have apart : 0xD800 ≤ Runtime.codePoint character → Runtime.codePoint character ≤ 0xDBFF →
        ¬StartsLow rest := by
      intro notBefore notBeyond
      obtain ⟨half, found, same⟩ | ⟨same, single⟩ := Runtime.codePoint_cases character
      · exact alone half found (same ▸ notBeyond)
      · omega
    rw [readString_unitEscape read bound (by omega), joinUnits_alone apart, Runtime.character_codePoint]
  | @pair offset large =>
    have small := offset_lt large
    rw [List.append_assoc, readString_unitEscape read bound (by omega), joinUnits_pair small,
      ← eq_ofNat_of_codePoint large (by omega)]

theorem Encodes.ne_nil {character : Char} {written : List Char} (encodes : Encodes character written) :
    written ≠ [] := by
  cases encodes with
  | named => exact List.cons_ne_nil _ _
  | itself => exact List.cons_ne_nil _ _
  | unit => exact List.cons_ne_nil _ _
  | pair => exact List.append_ne_nil_of_left_ne_nil (List.cons_ne_nil _ _) _

/-- Written characters are read up to the closing quote. -/
theorem readString_written {text : List Char} (unpaired : text.IsChain fun first second => ¬Pairs first second)
    {bound : Nat} (enough : text.length < bound) (read rest : List Char) :
    readString read bound (text.flatMap writtenChar ++ '"' :: rest) =
      .ok (String.ofList (read.reverse ++ text), rest) := by
  induction text generalizing bound read with
  | nil =>
    obtain ⟨bound, rfl⟩ := Nat.exists_eq_add_of_lt enough
    rw [List.flatMap_nil, List.nil_append, readString.eq_def]
    simp
  | cons first others inductionHypothesis =>
    obtain ⟨bound, rfl⟩ : ∃ less, bound = less + 1 := ⟨bound - 1, by omega⟩
    have alone : ∀ high, Runtime.surrogate? first = some high → high.codePoint ≤ 0xDBFF →
        ¬StartsLow (others.flatMap writtenChar ++ '"' :: rest) := by
      intro high found small starts
      cases others with
      | nil => exact not_startsLow_quote rest starts
      | cons second rest =>
        rw [List.flatMap_cons, List.append_assoc] at starts
        obtain ⟨low, foundLow, large⟩ := (encodes_writtenChar second).exists_low starts
        exact (List.isChain_cons_cons.mp unpaired).1 ⟨high, low, found, foundLow, small, large⟩
    have following : readString (first :: read) bound (others.flatMap writtenChar ++ '"' :: rest) = _ :=
      inductionHypothesis (List.isChain_of_isChain_cons unpaired) (by simpa using enough) _
    rw [List.flatMap_cons, List.append_assoc, readString_of_encodes (encodes_writtenChar first) read bound alone,
      following]
    simp

end Strings

/-! ## Integers -/

/-- No number goes on at the front of a text. -/
def Ends (rest : List Char) : Prop :=
  ∀ first, rest.head? = some first →
    isDigit first = false ∧ first ≠ '.' ∧ first ≠ 'e' ∧ first ≠ 'E'

theorem isDigit_of_mem_decimalDigits {number : Nat} {digit : Char}
    (among : digit ∈ Text.decimalDigits number) : isDigit digit = true := by
  have decimal := Nat.isDigit_of_mem_toDigits (by decide) (by decide) among
  simpa [isDigit, Char.isDigit, Char.le_def] using decimal

section Numbers

variable {rest : List Char} (ends : Ends rest)
include ends

theorem takeDigits_append {digits : List Char} (all : ∀ digit ∈ digits, isDigit digit = true) :
    takeDigits (digits ++ rest) = (digits, rest) := by
  have stopped : rest.takeWhile isDigit = [] ∧ rest.dropWhile isDigit = rest := by
    cases rest with
    | nil => simp
    | cons first others => simp [(ends first rfl).1]
  rw [takeDigits, List.takeWhile_append_of_pos all, List.dropWhile_append_of_pos all, stopped.1,
    stopped.2, List.append_nil]

theorem takeFraction_of_ends : takeFraction rest = (none, rest) := by
  cases rest with
  | nil => rfl
  | cons first others =>
    have noPoint := (ends first rfl).2.1
    unfold takeFraction
    split <;> simp_all

theorem takeExponent_of_ends : takeExponent rest = (none, rest) := by
  cases rest with
  | nil => rfl
  | cons first others =>
    obtain ⟨_, _, notLower, notUpper⟩ := ends first rfl
    simp [takeExponent, notLower, notUpper]

theorem takeWhole_decimalDigits (number : Nat) :
    takeWhole (Text.decimalDigits number ++ rest) = (Text.decimalDigits number, rest) := by
  by_cases zero : number = 0
  · rw [zero]
    rfl
  · have head := Text.head?_decimalDigits_ne (Nat.pos_of_ne_zero zero)
    have taken := takeDigits_append ends fun digit (among : digit ∈ Text.decimalDigits number) =>
      isDigit_of_mem_decimalDigits among
    unfold takeWhole
    split
    · rename_i following same
      cases digits : Text.decimalDigits number with
      | nil => exact absurd digits Nat.toDigits_ne_nil
      | cons first others =>
        rw [digits] at head same
        exact absurd (congrArg some (List.cons.inj same).1) head
    · exact taken

/-- The digits of a number are read as the number. -/
theorem readNumber_decimalDigits (negative : Bool) {number : Nat}
    (short : (Text.decimalDigits number).length ≤ Text.digitLimit) :
    readNumber negative (Text.decimalDigits number ++ rest) =
      .ok (.integer (if negative then -number else number), rest) := by
  have notEmpty : (Text.decimalDigits number).isEmpty = false :=
    List.isEmpty_eq_false_iff.mpr Nat.toDigits_ne_nil
  have value : Text.ofDigits 10 (Text.decimalDigits number) = number :=
    Text.ofDigits_toDigits (by decide) (by decide) number
  simp [readNumber, takeWhole_decimalDigits ends, notEmpty, takeFraction_of_ends ends,
    takeExponent_of_ends ends, Nat.not_lt.mpr short, value]

end Numbers

end TraceAutomata.Json
