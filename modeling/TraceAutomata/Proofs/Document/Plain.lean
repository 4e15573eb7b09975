import TraceAutomata.Proofs.Document.Mapping

/-!
# Plain values

What every notation can hold: nulls, integers, texts, lists and mappings with texts as keys. `Plain` bounds how
many collections stand within each other and says what its integers and its texts are like, so that it can be told
whether an integer has too many digits to be written, and whether a notation keeps the texts.
-/

namespace TraceAutomata.Value

/-- The digits of an integer are within the limit for reading and writing. -/
def Short (number : Int) : Prop :=
  (Text.decimalDigits number.natAbs).length ≤ Text.digitLimit

instance : DecidablePred Short := fun _ =>
  inferInstanceAs (Decidable (_ ≤ _))

/-- Values made of nulls, certain integers, certain texts, lists and mappings with different ones of these texts as
keys, in which so many collections stand within each other at most. -/
inductive Plain (Fits : Int → Prop) (Kept : String → Prop) : Nat → Value → Prop
  | null (levels : Nat) : Plain Fits Kept levels .null
  | integer (levels : Nat) {number : Int} (fits : Fits number) : Plain Fits Kept levels (.integer number)
  | text (levels : Nat) {own : String} (kept : Kept own) : Plain Fits Kept levels (.text own)
  | list {levels : Nat} {items : List Value} (members : ∀ item ∈ items, Plain Fits Kept levels item) :
      Plain Fits Kept (levels + 1) (.list items)
  | mapping {levels : Nat} {fields : List (String × Value)} (distinct : (fields.map Prod.fst).Nodup)
      (keys : ∀ field ∈ fields, Kept field.1) (values : ∀ field ∈ fields, Plain Fits Kept levels field.2) :
      Plain Fits Kept (levels + 1) (.mapping (textEntries fields))

variable {Fits : Int → Prop} {Kept : String → Prop} {levels : Nat} {labels : List Nat} {value : Value}

theorem hasOverlongInteger_eq_false_iff {number : Int} :
    (Value.integer number).hasOverlongInteger = false ↔ Short number := by
  simp [hasOverlongInteger, holdsOverlong, Text.isOverlong, Short]

theorem anyOverlong_eq_false_iff {items : List Value} :
    anyOverlong labels items = false ↔ ∀ item ∈ items, item.holdsOverlong labels = false := by
  induction items with
  | nil => simp [anyOverlong]
  | cons item rest inductionHypothesis => simp [anyOverlong, inductionHypothesis]

theorem anyOverlongEntry_eq_false_iff {fields : List (String × Value)} :
    anyOverlongEntry labels (textEntries fields) = false ↔
      ∀ field ∈ fields, field.2.holdsOverlong labels = false := by
  induction fields with
  | nil => simp [anyOverlongEntry]
  | cons field rest inductionHypothesis =>
    rw [textEntries_cons, anyOverlongEntry, Bool.or_eq_false_iff, inductionHypothesis]
    simp [holdsOverlong]

/-- A plain value without overlong integers is within the digit limit. -/
theorem Plain.short (plain : Plain Fits Kept levels value) (fits : value.hasOverlongInteger = false) :
    Plain Short Kept levels value := by
  induction plain with
  | null levels => exact .null levels
  | integer levels _ => exact .integer levels (hasOverlongInteger_eq_false_iff.mp fits)
  | text levels kept => exact .text levels kept
  | @list levels items members inductionHypothesis =>
    rw [hasOverlongInteger, holdsOverlong, anyOverlong_eq_false_iff] at fits
    exact .list fun item among => inductionHypothesis item among (fits item among)
  | @mapping levels fields distinct keys values inductionHypothesis =>
    rw [hasOverlongInteger, holdsOverlong, anyOverlongEntry_eq_false_iff] at fits
    exact .mapping distinct keys fun field among => inductionHypothesis field among (fits field among)

end TraceAutomata.Value
