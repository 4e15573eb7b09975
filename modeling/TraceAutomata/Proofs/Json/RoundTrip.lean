import TraceAutomata.Proofs.Document.Plain
import TraceAutomata.Proofs.Json.Scalar

/-!
# JSON texts are read back

A plain value is read from its own characters. `ReadFrom` says this of a value inside some collections and with
anything behind it; it holds of every plain value by induction (`readFrom_of_plain`), where a collection is read
member by member. The bound on the steps of the reader is never met, because a member is shorter than the
collection it stands in.
-/

namespace TraceAutomata.Json

open Value (Plain Short textEntries)

/-! ## Texts -/

/-- Characters of several texts, with a comma and a blank between neighbours. -/
def separatedChars (texts : List (List Char)) : List Char :=
  [',', ' '].intercalate texts

theorem toList_separated (texts : List String) :
    (Text.separated ", " texts).toList = separatedChars (texts.map String.toList) :=
  String.toList_intercalate

theorem separatedChars_cons_cons (first second : List Char) (others : List (List Char)) :
    separatedChars (first :: second :: others) =
      first ++ ',' :: ' ' :: separatedChars (second :: others) := by
  simp [separatedChars, List.intercalate_cons_cons]

/-- A text starts with something else than a blank or the end of a collection. -/
def Starts (text : List Char) : Prop :=
  ∃ first others, text = first :: others ∧ first ∉ [' ', '\t', '\n', '\r', ']', '\x7d']

theorem Starts.append {text : List Char} (starts : Starts text) (rest : List Char) :
    Starts (text ++ rest) := by
  obtain ⟨first, others, rfl, visible⟩ := starts
  exact ⟨first, others ++ rest, rfl, visible⟩

theorem Starts.skipBlanks {text : List Char} (starts : Starts text) : skipBlanks text = text := by
  obtain ⟨first, others, rfl, visible⟩ := starts
  simp only [List.mem_cons, List.not_mem_nil, or_false, not_or] at visible
  simp [Json.skipBlanks, visible]

theorem starts_decimalDigits (number : Nat) : Starts (Text.decimalDigits number) := by
  cases digits : Text.decimalDigits number with
  | nil => exact absurd digits Nat.toDigits_ne_nil
  | cons first others =>
    refine ⟨first, others, rfl, fun blank => ?_⟩
    have among : first ∈ Text.decimalDigits number := by simp [digits]
    have digit := isDigit_of_mem_decimalDigits among
    simp only [List.mem_cons, List.not_mem_nil, or_false] at blank
    obtain rfl | rfl | rfl | rfl | rfl | rfl := blank <;> revert digit <;> decide

theorem starts_separatedChars (texts : List (List Char)) (some : texts ≠ [])
    (each : ∀ text ∈ texts, Starts text) : Starts (separatedChars texts) := by
  match texts, some with
  | [text], _ =>
    rw [separatedChars, List.intercalate_singleton]
    exact each text (by simp)
  | first :: second :: others, _ =>
    rw [separatedChars_cons_cons]
    exact (each first (by simp)).append _

theorem ends_of_closing (closing : Char) (closes : closing ∈ [',', ']', '\x7d']) (rest : List Char) :
    Ends (closing :: rest) := by
  rintro first ⟨⟩
  simp only [List.mem_cons, List.not_mem_nil, or_false] at closes
  obtain rfl | rfl | rfl := closes <;> decide

theorem skipBlanks_closing {closing : Char} (closes : closing ∈ [',', ']', '\x7d', ':']) (rest : List Char) :
    skipBlanks (closing :: rest) = closing :: rest := by
  simp only [List.mem_cons, List.not_mem_nil, or_false] at closes
  obtain rfl | rfl | rfl | rfl := closes <;> rfl

theorem skipBlanks_blank (rest : List Char) : skipBlanks (' ' :: rest) = skipBlanks rest := rfl

variable [Runtime]

/-! ## Written characters -/

theorem toList_writtenString (text : String) :
    (writtenString text).toList = '"' :: (text.toList.flatMap writtenChar ++ ['"']) := by
  simp [writtenString]

theorem length_le_flatMap_writtenChar (text : List Char) :
    text.length ≤ (text.flatMap writtenChar).length := by
  induction text with
  | nil => simp
  | cons first others inductionHypothesis =>
    have something := List.length_pos_of_ne_nil (encodes_writtenChar first).ne_nil
    simp only [List.flatMap_cons, List.length_append, List.length_cons]
    omega

/-- The characters that are written for a value. -/
def writtenChars (value : Value) : List Char :=
  (written value).toList

/-- The characters of an entry under a text. -/
def entryChars (field : String × Value) : List Char :=
  '"' :: (field.1.toList.flatMap writtenChar ++ '"' :: ':' :: ' ' :: writtenChars field.2)

theorem toList_writtenItems (items : List Value) :
    (writtenItems items).map String.toList = items.map writtenChars := by
  induction items with
  | nil => rfl
  | cons item rest inductionHypothesis =>
    rw [writtenItems, List.map_cons, inductionHypothesis, List.map_cons, writtenChars]

theorem toList_writtenEntries (fields : List (String × Value)) :
    (writtenEntries (textEntries fields)).map String.toList = fields.map entryChars := by
  induction fields with
  | nil => rfl
  | cons field rest inductionHypothesis =>
    rw [Value.textEntries_cons, writtenEntries, List.map_cons, inductionHypothesis, List.map_cons]
    simp [entryChars, writtenChars, keyText?, Value.content, toList_writtenString]

theorem writtenChars_list (items : List Value) :
    writtenChars (.list items) = '[' :: (separatedChars (items.map writtenChars) ++ [']']) := by
  simp [writtenChars, written, toList_separated, toList_writtenItems]

theorem writtenChars_mapping (fields : List (String × Value)) :
    writtenChars (.mapping (textEntries fields)) =
      '\x7b' :: (separatedChars (fields.map entryChars) ++ ['\x7d']) := by
  simp [writtenChars, written, toList_separated, toList_writtenEntries]

/-! ## Where texts start -/

theorem starts_writtenChars {levels : Nat} {value : Value} (plain : Plain Short Unpaired levels value) :
    Starts (writtenChars value) := by
  cases plain with
  | null => exact ⟨'n', ['u', 'l', 'l'], by simp [writtenChars, written], by decide⟩
  | @integer _ number fits =>
    rw [writtenChars, written]
    by_cases natural : 0 ≤ number
    · rw [Text.toList_signedDecimal natural]
      exact starts_decimalDigits _
    · rw [Text.toList_signedDecimal_of_neg (Int.not_le.mp natural)]
      exact ⟨'-', _, rfl, by decide⟩
  | text => exact ⟨'"', _, toList_writtenString _, by decide⟩
  | list members => exact ⟨'[', _, writtenChars_list _, by decide⟩
  | mapping distinct keys values => exact ⟨'\x7b', _, writtenChars_mapping _, by decide⟩

/-- A bound that its characters stay within is no zero. -/
theorem exists_bound {levels bound : Nat} {value : Value} (plain : Plain Short Unpaired levels value)
    (enough : (writtenChars value).length ≤ bound) : ∃ less, bound = less + 1 := by
  obtain ⟨first, others, chars, _⟩ := starts_writtenChars plain
  rw [chars, List.length_cons] at enough
  exact ⟨bound - 1, by omega⟩

/-! ## Reading scalars -/

/-- A word is read as its value. -/
theorem readValue_null (bound depth : Nat) (rest : List Char) :
    readValue (bound + 1) depth ("null".toList ++ rest) = .ok (.null, rest) := by
  rw [readValue.eq_def]
  simp [takeWord, words]

/-- What starts with a digit is a number, also behind a minus. -/
theorem readValue_digit {digit : Char} (isOne : isDigit digit = true) (bound depth : Nat)
    (others : List Char) :
    readValue (bound + 1) depth (digit :: others) = readNumber false (digit :: others) ∧
      readValue (bound + 1) depth ('-' :: digit :: others) = readNumber true (digit :: others) := by
  have noLetter : 'n' ≠ digit ∧ 't' ≠ digit ∧ 'f' ≠ digit ∧ 'N' ≠ digit ∧ 'I' ≠ digit := by
    refine ⟨?_, ?_, ?_, ?_, ?_⟩ <;> rintro rfl <;> revert isOne <;> decide
  have noSign : digit ≠ '-' ∧ digit ≠ '"' ∧ digit ≠ '[' ∧ digit ≠ '\x7b' := by
    refine ⟨?_, ?_, ?_, ?_⟩ <;> rintro rfl <;> revert isOne <;> decide
  constructor
  · rw [readValue.eq_def]
    simp [takeWord, words, noLetter, noSign, Ne.symm noSign.1]
  · rw [readValue.eq_def]
    simp [takeWord, words, noLetter]

theorem readValue_integer {number : Int} (short : Short number) {rest : List Char} (ends : Ends rest)
    (bound depth : Nat) :
    readValue (bound + 1) depth (writtenChars (.integer number) ++ rest) = .ok (.integer number, rest) := by
  have digits : ∀ negative, readNumber negative (Text.decimalDigits number.natAbs ++ rest) =
      .ok (.integer (if negative then -number.natAbs else number.natAbs), rest) :=
    fun negative => readNumber_decimalDigits ends negative short
  have first : ∀ digit ∈ Text.decimalDigits number.natAbs, isDigit digit = true :=
    fun _ among => isDigit_of_mem_decimalDigits among
  rw [writtenChars, written]
  cases all : Text.decimalDigits number.natAbs with
  | nil => exact absurd all Nat.toDigits_ne_nil
  | cons digit others =>
    rw [all] at digits first
    by_cases natural : 0 ≤ number
    · have whole := digits false
      rw [if_neg (by decide), Int.natAbs_of_nonneg natural] at whole
      rw [Text.toList_signedDecimal natural, show number.toNat = number.natAbs by omega, all,
        List.cons_append, (readValue_digit (first _ (by simp)) _ _ _).1]
      exact whole
    · have whole := digits true
      rw [if_pos rfl, show -(number.natAbs : Int) = number by omega] at whole
      rw [Text.toList_signedDecimal_of_neg (Int.not_le.mp natural), all, List.cons_append,
        List.cons_append, (readValue_digit (first _ (by simp)) _ _ _).2]
      exact whole

/-- A string is read up to its closing quote. -/
theorem readString_quoted {text : String} (unpaired : Unpaired text) (rest : List Char) :
    readString [] ((text.toList.flatMap writtenChar ++ '"' :: rest).length + 1)
        (text.toList.flatMap writtenChar ++ '"' :: rest) = .ok (text, rest) := by
  have enough : text.toList.length < (text.toList.flatMap writtenChar ++ '"' :: rest).length + 1 := by
    have atLeast := length_le_flatMap_writtenChar text.toList
    rw [List.length_append]
    omega
  rw [readString_written unpaired enough]
  simp

theorem readValue_text {text : String} (unpaired : Unpaired text) (rest : List Char) (bound depth : Nat) :
    readValue (bound + 1) depth (writtenChars (.text text) ++ rest) = .ok (.text text, rest) := by
  have chars : writtenChars (.text text) ++ rest =
      '"' :: (text.toList.flatMap writtenChar ++ '"' :: rest) := by
    rw [writtenChars, written, toList_writtenString]
    simp
  rw [chars, readValue.eq_def]
  simp only [readString_quoted unpaired]
  rfl

/-! ## Reading collections -/

/-- A value that stands in few enough collections is read from its own characters, whatever follows them
that is not part of a number. -/
structure ReadFrom (levels : Nat) (value : Value) : Prop where
  starts : Starts (writtenChars value)
  reads : ∀ {bound depth : Nat} {rest : List Char}, (writtenChars value).length ≤ bound →
    depth + levels ≤ nestingLimit → Ends rest →
    readValue bound depth (writtenChars value ++ rest) = .ok (value, rest)

/-- A list that is not empty is read as its members. -/
theorem readValue_bracket {bound depth : Nat} {inner rest : List Char} {items : List Value}
    (shallow : depth < nestingLimit) (starts : Starts inner)
    (read : readItems bound (depth + 1) inner = .ok (items, rest)) :
    readValue (bound + 1) depth ('[' :: inner) = .ok (.list items, rest) := by
  have notDeep : checkDepth depth = .ok () := if_neg (Nat.not_le.mpr shallow)
  have visible := starts.skipBlanks
  rw [readValue.eq_def]
  simp only [notDeep, visible, bind, Except.bind]
  split
  · obtain ⟨first, others, same, notClosing⟩ := starts
    rw [← (List.cons.inj same).1] at notClosing
    exact absurd (by decide) notClosing
  · simp only [read, pure, Except.pure]

theorem readValue_noItems {depth : Nat} (shallow : depth < nestingLimit) (bound : Nat) (rest : List Char) :
    readValue (bound + 1) depth ('[' :: ']' :: rest) = .ok (.list [], rest) := by
  have notDeep : checkDepth depth = .ok () := if_neg (Nat.not_le.mpr shallow)
  rw [readValue.eq_def]
  simp [notDeep, skipBlanks_closing, bind, Except.bind, pure, Except.pure]

/-- A mapping that is not empty is read as its entries. -/
theorem readValue_brace {bound depth : Nat} {inner rest : List Char} {entries : List (Value × Value)}
    (shallow : depth < nestingLimit) (starts : Starts inner)
    (read : readEntries bound (depth + 1) inner = .ok (entries, rest)) :
    readValue (bound + 1) depth ('\x7b' :: inner) = .ok (Value.ofEntries entries, rest) := by
  have notDeep : checkDepth depth = .ok () := if_neg (Nat.not_le.mpr shallow)
  have visible := starts.skipBlanks
  rw [readValue.eq_def]
  simp only [notDeep, visible, bind, Except.bind]
  split
  · obtain ⟨first, others, same, notClosing⟩ := starts
    rw [← (List.cons.inj same).1] at notClosing
    exact absurd (by decide) notClosing
  · simp only [read, pure, Except.pure]

theorem readValue_noEntries {depth : Nat} (shallow : depth < nestingLimit) (bound : Nat)
    (rest : List Char) :
    readValue (bound + 1) depth ('\x7b' :: '\x7d' :: rest) = .ok (.mapping [], rest) := by
  have notDeep : checkDepth depth = .ok () := if_neg (Nat.not_le.mpr shallow)
  rw [readValue.eq_def]
  simp [notDeep, skipBlanks_closing, bind, Except.bind, pure, Except.pure]

theorem starts_entryChars (field : String × Value) : Starts (entryChars field) :=
  ⟨'"', _, rfl, by decide⟩

theorem length_writtenChars_le (field : String × Value) :
    (writtenChars field.2).length ≤ (entryChars field).length := by
  simp only [entryChars, List.length_cons, List.length_append]
  omega

theorem entryChars_append (field : String × Value) (rest : List Char) :
    entryChars field ++ rest =
      '"' :: (field.1.toList.flatMap writtenChar ++ '"' :: ':' :: ' ' :: (writtenChars field.2 ++ rest)) := by
  simp [entryChars]

section Collections

variable {levels depth bound : Nat} (shallow : depth + levels ≤ nestingLimit)
include shallow

section OneMember

variable {item : Value} (own : ReadFrom levels item) (enough : (writtenChars item).length ≤ bound)
include own enough

theorem readItems_last (rest : List Char) :
    readItems (bound + 1) depth (writtenChars item ++ ']' :: rest) = .ok ([item], rest) := by
  rw [readItems, own.reads enough shallow (ends_of_closing _ (by simp) _)]
  simp [bind, Except.bind, skipBlanks_closing, pure, Except.pure]

theorem readItems_next {next rest : List Char} (starts : Starts next) {others : List Value}
    (following : readItems bound depth next = .ok (others, rest)) :
    readItems (bound + 1) depth (writtenChars item ++ ',' :: ' ' :: next) = .ok (item :: others, rest) := by
  rw [readItems, own.reads enough shallow (ends_of_closing _ (by simp) _)]
  simp [bind, Except.bind, skipBlanks_closing, skipBlanks_blank, starts.skipBlanks, following,
    pure, Except.pure]

end OneMember

section OneField

variable {field : String × Value} (unpaired : Unpaired field.1) (own : ReadFrom levels field.2)
  (enough : (entryChars field).length ≤ bound)
include unpaired own enough

theorem readEntries_last (rest : List Char) :
    readEntries (bound + 1) depth (entryChars field ++ '\x7d' :: rest) =
      .ok ([(.text field.1, field.2)], rest) := by
  have key := readString_quoted unpaired (':' :: ' ' :: (writtenChars field.2 ++ '\x7d' :: rest))
  have value := own.reads (Nat.le_trans (length_writtenChars_le field) enough) shallow
    (ends_of_closing '\x7d' (by simp) rest)
  rw [entryChars_append, readEntries.eq_def]
  simp only [key]
  simp [bind, Except.bind, skipBlanks_closing, skipBlanks_blank,
    (own.starts.append _).skipBlanks, value, pure, Except.pure]

theorem readEntries_next {next rest : List Char} (starts : Starts next)
    {others : List (Value × Value)} (following : readEntries bound depth next = .ok (others, rest)) :
    readEntries (bound + 1) depth (entryChars field ++ ',' :: ' ' :: next) =
      .ok ((.text field.1, field.2) :: others, rest) := by
  have key := readString_quoted unpaired (':' :: ' ' :: (writtenChars field.2 ++ ',' :: ' ' :: next))
  have value := own.reads (Nat.le_trans (length_writtenChars_le field) enough) shallow
    (ends_of_closing ',' (by simp) (' ' :: next))
  rw [entryChars_append, readEntries.eq_def]
  simp only [key]
  simp [bind, Except.bind, skipBlanks_closing, skipBlanks_blank,
    (own.starts.append _).skipBlanks, value, starts.skipBlanks, following, pure,
    Except.pure]

end OneField

/-- Members are read one by one up to the closing bracket. -/
theorem readItems_of_members {items : List Value} (some : items ≠ [])
    (members : ∀ item ∈ items, ReadFrom levels item)
    (enough : (separatedChars (items.map writtenChars)).length < bound) (rest : List Char) :
    readItems bound depth (separatedChars (items.map writtenChars) ++ ']' :: rest) =
      .ok (items, rest) := by
  induction items generalizing bound with
  | nil => exact absurd rfl some
  | cons item others inductionHypothesis =>
    rw [List.forall_mem_cons] at members
    obtain ⟨bound, rfl⟩ : ∃ less, bound = less + 1 := ⟨bound - 1, by omega⟩
    cases others with
    | nil =>
      rw [List.map_singleton, separatedChars, List.intercalate_singleton] at enough ⊢
      exact readItems_last shallow members.1 (by omega) rest
    | cons second others =>
      have starts := starts_separatedChars ((second :: others).map writtenChars) (by simp)
        (List.forall_mem_map.mpr fun item among => (members.2 item among).starts)
      rw [List.map_cons, List.map_cons, separatedChars_cons_cons, ← List.map_cons] at enough ⊢
      rw [List.length_append, List.length_cons, List.length_cons] at enough
      rw [List.append_assoc]
      exact readItems_next shallow members.1 (by omega) (starts.append _)
        (inductionHypothesis (by simp) members.2 (by omega))

/-- Entries are read one by one up to the closing brace. -/
theorem readEntries_of_fields {fields : List (String × Value)} (some : fields ≠ [])
    (fine : ∀ field ∈ fields, Unpaired field.1 ∧ ReadFrom levels field.2)
    (enough : (separatedChars (fields.map entryChars)).length < bound) (rest : List Char) :
    readEntries bound depth (separatedChars (fields.map entryChars) ++ '\x7d' :: rest) =
      .ok (textEntries fields, rest) := by
  induction fields generalizing bound with
  | nil => exact absurd rfl some
  | cons field others inductionHypothesis =>
    rw [List.forall_mem_cons] at fine
    obtain ⟨bound, rfl⟩ : ∃ less, bound = less + 1 := ⟨bound - 1, by omega⟩
    cases others with
    | nil =>
      rw [List.map_singleton, separatedChars, List.intercalate_singleton] at enough ⊢
      exact readEntries_last shallow fine.1.1 fine.1.2 (by omega) rest
    | cons second others =>
      have starts := starts_separatedChars ((second :: others).map entryChars) (by simp)
        (List.forall_mem_map.mpr fun field _ => starts_entryChars field)
      rw [List.map_cons, List.map_cons, separatedChars_cons_cons, ← List.map_cons] at enough ⊢
      rw [List.length_append, List.length_cons, List.length_cons] at enough
      rw [List.append_assoc]
      exact readEntries_next shallow fine.1.1 fine.1.2 (by omega) (starts.append _)
        (inductionHypothesis (by simp) fine.2 (by omega))

end Collections

/-- A plain value is read from its own characters. -/
theorem readFrom_of_plain {levels : Nat} {value : Value} (plain : Plain Short Unpaired levels value) :
    ReadFrom levels value := by
  induction plain with
  | null levels =>
    refine ⟨starts_writtenChars (.null levels), fun {bound depth rest} enough _ _ => ?_⟩
    obtain ⟨bound, rfl⟩ := exists_bound (.null levels) enough
    exact readValue_null bound depth rest
  | integer levels short =>
    refine ⟨starts_writtenChars (.integer levels short), fun {bound depth rest} enough _ ends => ?_⟩
    obtain ⟨bound, rfl⟩ := exists_bound (.integer levels short) enough
    exact readValue_integer short ends bound depth
  | text levels unpaired =>
    refine ⟨starts_writtenChars (.text levels unpaired), fun {bound depth rest} enough _ ends => ?_⟩
    obtain ⟨bound, rfl⟩ := exists_bound (.text levels unpaired) enough
    exact readValue_text unpaired rest bound depth
  | @list levels items members inductionHypothesis =>
    refine ⟨starts_writtenChars (.list members), fun {bound depth rest} enough shallow _ => ?_⟩
    obtain ⟨bound, rfl⟩ := exists_bound (.list members) enough
    rw [writtenChars_list] at enough ⊢
    simp only [List.length_cons, List.length_append, List.length_nil] at enough
    rw [List.cons_append, List.append_assoc, List.singleton_append]
    by_cases empty : items = []
    · rw [empty]
      exact readValue_noItems (by omega) bound rest
    · have starts := starts_separatedChars (items.map writtenChars) (by simpa using empty)
        (List.forall_mem_map.mpr fun item among => (inductionHypothesis item among).starts)
      exact readValue_bracket (by omega) (starts.append _)
        (readItems_of_members (by omega) empty inductionHypothesis (by omega) rest)
  | @mapping levels fields distinct keys values inductionHypothesis =>
    refine ⟨starts_writtenChars (.mapping distinct keys values), fun {bound depth rest} enough shallow _ => ?_⟩
    obtain ⟨bound, rfl⟩ := exists_bound (.mapping distinct keys values) enough
    rw [writtenChars_mapping] at enough ⊢
    simp only [List.length_cons, List.length_append, List.length_nil] at enough
    rw [List.cons_append, List.append_assoc, List.singleton_append]
    by_cases empty : fields = []
    · rw [empty]
      exact readValue_noEntries (by omega) bound rest
    · have starts := starts_separatedChars (fields.map entryChars) (by simpa using empty)
        (List.forall_mem_map.mpr fun field _ => starts_entryChars field)
      rw [← Value.ofEntries_textEntries distinct]
      exact readValue_brace (by omega) (starts.append _)
        (readEntries_of_fields (by omega) empty
          (fun field among => ⟨keys field among, inductionHypothesis field among⟩) (by omega) rest)

/-- A plain value is read from its text. -/
theorem read_written {value : Value} (plain : Plain Short Unpaired nestingLimit value) :
    read (written value) = .ok value := by
  have own := readFrom_of_plain plain
  have whole : readValue ((writtenChars value).length + 1) 0 (writtenChars value ++ []) = .ok (value, []) :=
    own.reads (by omega) (by omega) (by rintro first ⟨⟩)
  rw [List.append_nil] at whole
  have visible : skipBlanks (written value).toList = writtenChars value := own.starts.skipBlanks
  simp only [read, visible, whole, bind, Except.bind]
  rfl

end TraceAutomata.Json
