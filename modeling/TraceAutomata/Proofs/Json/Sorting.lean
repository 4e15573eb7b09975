import Mathlib.Data.List.Forall2
import TraceAutomata.Proofs.Json.RoundTrip

/-!
# Sorted JSON texts are read back

A plain value is written with the entries of its mappings in the order of their keys. Sorting only moves
entries: it always succeeds on a plain value, and its result is plain and the same up to the order of entries,
so the text is read back as the same value up to that order.
-/

namespace TraceAutomata.Json

open Value (Plain Short textEntries hasOverlongInteger_eq_false_iff)

/-! ## Sorting entries -/

section Entries

variable {Content Result : Type} (result : Content → Result)

/-- Entries under texts, with what was made of their values. -/
def madeEntries (fields : List (String × Content)) : List (Value × Result) :=
  textEntries (fields.map (Prod.map id result))

theorem madeEntries_cons (field : String × Content) (rest : List (String × Content)) :
    madeEntries result (field :: rest) = (.text field.1, result field.2) :: madeEntries result rest := rfl

variable [Runtime]

theorem insertByKey?_madeEntries (field : String × Content) (fields : List (String × Content)) :
    ∃ ordered, insertByKey? (.text field.1, result field.2) (madeEntries result fields) =
      some (madeEntries result ordered) ∧ ordered.Perm (field :: fields) := by
  induction fields with
  | nil => exact ⟨[field], rfl, .refl _⟩
  | cons first rest inductionHypothesis =>
    obtain ⟨ordered, inserted, moved⟩ := inductionHypothesis
    have order : Value.precedes? (.text first.1) (.text field.1) = some (Value.precedesText first.1 field.1) := rfl
    rw [madeEntries_cons, insertByKey?, order, inserted]
    cases before : Value.precedesText first.1 field.1 with
    | true => exact ⟨first :: ordered, by simp [madeEntries], (moved.cons first).trans (.swap _ _ _)⟩
    | false => exact ⟨field :: first :: rest, by simp [madeEntries], .refl _⟩

/-- Entries under texts can always be sorted, whatever was made of their values. -/
theorem sortByKey?_madeEntries (fields : List (String × Content)) :
    ∃ ordered, sortByKey? (madeEntries result fields) = some (madeEntries result ordered) ∧
      ordered.Perm fields := by
  induction fields with
  | nil => exact ⟨[], rfl, .refl _⟩
  | cons first rest inductionHypothesis =>
    obtain ⟨middle, sorted, moved⟩ := inductionHypothesis
    obtain ⟨ordered, inserted, placed⟩ := insertByKey?_madeEntries result first middle
    refine ⟨ordered, ?_, placed.trans (moved.cons first)⟩
    rw [madeEntries_cons, sortByKey?, sorted]
    exact inserted

end Entries

/-! ## Related lists -/

section Related

variable {First Second : Type} {Related : First → Second → Prop} {firsts : List First}
  {seconds : List Second}

theorem exists_forall₂ (each : ∀ first ∈ firsts, ∃ second, Related first second) :
    ∃ seconds, List.Forall₂ Related firsts seconds := by
  induction firsts with
  | nil => exact ⟨[], .nil⟩
  | cons first rest inductionHypothesis =>
    rw [List.forall_mem_cons] at each
    obtain ⟨second, own⟩ := each.1
    obtain ⟨seconds, related⟩ := inductionHypothesis each.2
    exact ⟨second :: seconds, .cons own related⟩

/-- Each member of one of two related lists is related to one of the other. -/
theorem exists_related (related : List.Forall₂ Related firsts seconds) :
    (∀ first ∈ firsts, ∃ second ∈ seconds, Related first second) ∧
      ∀ second ∈ seconds, ∃ first ∈ firsts, Related first second := by
  induction related with
  | nil => simp
  | cons own _ inductionHypothesis =>
    simp only [List.forall_mem_cons, List.exists_mem_cons_iff]
    exact ⟨⟨.inl own, fun first among => .inr (inductionHypothesis.1 first among)⟩,
      .inl own, fun second among => .inr (inductionHypothesis.2 second among)⟩

theorem map_eq_ok_iff {Outer : Type} {computed : Except ValueFault First} {make : First → Outer}
    {result : Outer} :
    computed.map make = .ok result ↔ ∃ inner, computed = .ok inner ∧ make inner = result := by
  cases computed <;> simp [Except.map]

end Related

/-! ## Sorting values -/

variable [Runtime] {Fits : Int → Prop} {Kept : String → Prop} {levels : Nat} {labels : List Nat}
  {value ordered : Value}

theorem sortedWithin_integer (number : Int) :
    sortedWithin labels (.integer number) =
      if (Value.integer number).hasOverlongInteger then .error .tooLongToWrite
      else .ok (.integer number) := rfl

theorem sortedEntries_textEntries (fields : List (String × Value)) :
    sortedEntries labels (textEntries fields) = madeEntries (sortedWithin labels) fields := by
  induction fields with
  | nil => rfl
  | cons field rest inductionHypothesis =>
    rw [Value.textEntries_cons, sortedEntries, inductionHypothesis]
    rfl

/-- A list is sorted into its sorted members. -/
theorem sortedItems_eq_ok_iff {items others : List Value} :
    sortedItems labels items = .ok others ↔
      List.Forall₂ (fun item other => sortedWithin labels item = .ok other) items others := by
  induction items generalizing others with
  | nil => cases others <;> simp [sortedItems]
  | cons item rest inductionHypothesis =>
    rw [sortedItems]
    cases first : sortedWithin labels item with
    | error fault => cases others <;> simp [first, bind, Except.bind]
    | ok sorted =>
      cases following : sortedItems labels rest with
      | error fault =>
        cases others <;> simp [first, ← inductionHypothesis, following, bind, Except.bind]
      | ok sortedRest =>
        cases others <;>
          simp [first, ← inductionHypothesis, following, bind, Except.bind, pure, Except.pure]

/-- Under the same keys, one list of entries has what the values of another are sorted into. -/
def SortedFields (labels : List Nat) (fields others : List (String × Value)) : Prop :=
  List.Forall₂ (fun field other => other.1 = field.1 ∧ sortedWithin labels field.2 = .ok other.2)
    fields others

theorem checkedEntries_eq_ok_iff {fields : List (String × Value)} {entries : List (Value × Value)} :
    checkedEntries (madeEntries (sortedWithin labels) fields) = .ok entries ↔
      ∃ others, entries = textEntries others ∧ SortedFields labels fields others := by
  induction fields generalizing entries with
  | nil => simp [madeEntries, checkedEntries, SortedFields, eq_comm]
  | cons field rest inductionHypothesis =>
    have writable : (keyText? (.text field.1)).isNone = false ∧
        (Value.text field.1).hasOverlongInteger = false := ⟨rfl, rfl⟩
    rw [madeEntries_cons, checkedEntries, writable.1, writable.2]
    constructor
    · intro checked
      cases first : sortedWithin labels field.2 with
      | error fault => simp [first, bind, Except.bind] at checked
      | ok sorted =>
        cases following : checkedEntries (madeEntries (sortedWithin labels) rest) with
        | error fault => simp [first, following, bind, Except.bind] at checked
        | ok sortedRest =>
          obtain ⟨others, rfl, each⟩ := inductionHypothesis.mp following
          simp only [first, following, bind, Except.bind, pure, Except.pure] at checked
          exact ⟨(field.1, sorted) :: others, (Except.ok.inj checked).symm, .cons ⟨rfl, first⟩ each⟩
    · rintro ⟨_, rfl, each⟩
      cases each with
      | @cons _ other _ others own each =>
        rw [inductionHypothesis.mpr ⟨others, rfl, each⟩, own.2, ← own.1]
        rfl

/-- A mapping is sorted into its sorted entries, moved. -/
theorem sortedWithin_mapping (labels : List Nat) (fields : List (String × Value)) :
    ∃ moved, moved.Perm fields ∧ ∀ {ordered},
      sortedWithin labels (.mapping (textEntries fields)) = .ok ordered ↔
        ∃ others, ordered = .mapping (textEntries others) ∧ SortedFields labels moved others := by
  obtain ⟨moved, sorted, perm⟩ := sortByKey?_madeEntries (sortedWithin labels) fields
  refine ⟨moved, perm, fun {ordered} => ?_⟩
  rw [sortedWithin, sortedEntries_textEntries, sorted]
  simp only [map_eq_ok_iff, checkedEntries_eq_ok_iff]
  constructor
  · rintro ⟨_, ⟨others, rfl, each⟩, rfl⟩
    exact ⟨others, rfl, each⟩
  · rintro ⟨others, rfl, each⟩
    exact ⟨_, ⟨others, rfl, each⟩, rfl⟩

/-- What a plain value is sorted into is plain, within the digit limit, and the same up to the order of
entries. -/
theorem of_sortedWithin (plain : Plain Fits Kept levels value)
    (sorted : sortedWithin labels value = .ok ordered) :
    Plain Short Kept levels ordered ∧ ordered.sameUpToOrder value = true := by
  induction plain generalizing ordered with
  | null levels =>
    obtain rfl := Except.ok.inj sorted
    exact ⟨.null levels, rfl⟩
  | @integer levels number fits =>
    rw [sortedWithin_integer] at sorted
    split at sorted
    · cases sorted
    · rename_i notOverlong
      obtain rfl := Except.ok.inj sorted
      exact ⟨.integer levels (hasOverlongInteger_eq_false_iff.mp (by simpa using notOverlong)),
        by simp [Value.sameUpToOrder]⟩
  | text levels kept =>
    obtain rfl := Except.ok.inj sorted
    exact ⟨.text levels kept, by simp [Value.sameUpToOrder]⟩
  | @list levels items members inductionHypothesis =>
    rw [sortedWithin, map_eq_ok_iff] at sorted
    obtain ⟨others, sorted, rfl⟩ := sorted
    have each := (List.forall₂_and_left _ _).mpr ⟨inductionHypothesis, sortedItems_eq_ok_iff.mp sorted⟩
    refine ⟨.list fun other among => ?_, Value.sameUpToOrder_list_iff.mpr ⟨others, rfl, ?_⟩⟩
    · obtain ⟨item, _, own, becomes⟩ := (exists_related each).2 other among
      exact (own becomes).1
    · exact (each.imp fun item other own => (own.1 own.2).2).flip
  | @mapping levels fields distinct keys values inductionHypothesis =>
    obtain ⟨moved, perm, sorts⟩ := sortedWithin_mapping labels fields
    obtain ⟨others, rfl, related⟩ := sorts.mp sorted
    have sameKeys : others.map Prod.fst = moved.map Prod.fst := by
      rw [← List.forall₂_eq_eq_eq, List.forall₂_map_left_iff, List.forall₂_map_right_iff]
      exact (related.imp fun _ _ own => own.1).flip
    have apart : (others.map Prod.fst).Nodup := by
      rw [sameKeys]
      exact (perm.map Prod.fst).nodup_iff.mpr distinct
    have kept : ∀ other ∈ others, Kept other.1 := by
      intro other among
      obtain ⟨field, held, same, -⟩ := (exists_related related).2 other among
      exact same ▸ keys field (perm.mem_iff.mp held)
    refine ⟨.mapping apart kept fun other among => ?_,
      Value.sameUpToOrder_mapping_iff.mpr ⟨_, rfl, ?_, fun field among => ?_⟩⟩
    · obtain ⟨field, held, _, becomes⟩ := (exists_related related).2 other among
      exact (inductionHypothesis field (perm.mem_iff.mp held) becomes).1
    · rw [Value.length_textEntries, ← related.length_eq, perm.length_eq]
    · obtain ⟨other, held, key, becomes⟩ := (exists_related related).1 field (perm.mem_iff.mpr among)
      exact ⟨other.2, Value.lookup_textEntries apart (key ▸ held),
        (inductionHypothesis field among becomes).2⟩

/-- A plain value within the digit limit can be sorted. -/
theorem exists_sortedWithin (plain : Plain Short Kept levels value) :
    ∃ ordered, sortedWithin labels value = .ok ordered := by
  induction plain with
  | null levels => exact ⟨_, rfl⟩
  | @integer levels number short =>
    exact ⟨.integer number, by rw [sortedWithin_integer, hasOverlongInteger_eq_false_iff.mpr short]; rfl⟩
  | text levels kept => exact ⟨_, rfl⟩
  | @list levels items members inductionHypothesis =>
    obtain ⟨others, each⟩ := exists_forall₂ inductionHypothesis
    exact ⟨.list others, by rw [sortedWithin, sortedItems_eq_ok_iff.mpr each]; rfl⟩
  | @mapping levels fields distinct keys values inductionHypothesis =>
    obtain ⟨moved, perm, sorts⟩ := sortedWithin_mapping labels fields
    have each : ∀ field ∈ moved, ∃ other : String × Value,
        other.1 = field.1 ∧ sortedWithin labels field.2 = .ok other.2 := by
      intro field among
      obtain ⟨other, becomes⟩ := inductionHypothesis field (perm.mem_iff.mp among)
      exact ⟨(field.1, other), rfl, becomes⟩
    obtain ⟨others, related⟩ := exists_forall₂ each
    exact ⟨_, sorts.mpr ⟨others, rfl, related⟩⟩

/-! ## Texts -/

/-- There is room for the collections of a dump. -/
theorem six_le_nestingLimit : 6 ≤ nestingLimit :=
  Nat.le_trans (by decide) Runtime.roomy

/-- A text that was written for a plain value is read as the same value up to the order of entries. -/
theorem read_writtenSorted (plain : Plain Fits Unpaired nestingLimit value) {text : String}
    (wrote : writtenSorted value = .ok text) :
    ∃ found, read text = .ok found ∧ found.sameUpToOrder value = true := by
  rw [writtenSorted, map_eq_ok_iff] at wrote
  obtain ⟨ordered, sorted, rfl⟩ := wrote
  obtain ⟨plainOrdered, same⟩ := of_sortedWithin plain sorted
  exact ⟨ordered, read_written plainOrdered, same⟩

/-- A plain value without overlong integers is written. -/
theorem exists_writtenSorted (plain : Plain Fits Kept levels value) (fits : value.hasOverlongInteger = false) :
    ∃ text, writtenSorted value = .ok text := by
  obtain ⟨ordered, sorted⟩ := exists_sortedWithin (plain.short fits)
  exact ⟨written ordered, by rw [writtenSorted, sorted]; rfl⟩

end TraceAutomata.Json
