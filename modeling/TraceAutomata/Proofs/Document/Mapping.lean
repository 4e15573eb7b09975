import Mathlib.Data.List.Forall2
import Mathlib.Data.List.Nodup
import TraceAutomata.Document.Value

/-!
# Mappings with texts as keys

Most mappings of a document have different texts as keys. Their entries are found under their keys in whatever
order they stand; `sameUpToOrder` is equality of values apart from this order.
-/

namespace TraceAutomata.Value

/-- Entries under texts. -/
def textEntries {Content : Type} (fields : List (String × Content)) : List (Value × Content) :=
  fields.map fun field => (.text field.1, field.2)

section TextEntries

variable {Content : Type}

@[simp] theorem textEntries_nil : textEntries ([] : List (String × Content)) = [] := rfl

@[simp] theorem textEntries_cons (field : String × Content) (rest : List (String × Content)) :
    textEntries (field :: rest) = (.text field.1, field.2) :: textEntries rest := rfl

@[simp] theorem length_textEntries (fields : List (String × Content)) :
    (textEntries fields).length = fields.length :=
  List.length_map _

end TextEntries

section Fields

variable {fields : List (String × Value)} (distinct : (fields.map Prod.fst).Nodup)
include distinct

/-- An entry is found under its key. -/
theorem lookup_textEntries {key : String} {value : Value} (held : (key, value) ∈ fields) :
    lookup key (textEntries fields) = some value := by
  induction fields with
  | nil => cases held
  | cons first rest inductionHypothesis =>
    rw [List.map_cons, List.nodup_cons] at distinct
    rw [textEntries_cons, lookup]
    obtain rfl | later := List.mem_cons.mp held
    · simp
    · have different : first.1 ≠ key := fun same => distinct.1 (same ▸ List.mem_map_of_mem later)
      simpa [different] using inductionHypothesis distinct.2 later

/-- Entries with different keys are the entries of their mapping. -/
theorem ofEntries_textEntries : ofEntries (textEntries fields) = .mapping (textEntries fields) := by
  have put : ∀ built : List (String × Value), ∀ key value, key ∉ built.map Prod.fst →
      putEntry (.text key) value (textEntries built) = textEntries (built ++ [(key, value)]) := by
    intro built key value absent
    induction built with
    | nil => rfl
    | cons first rest inductionHypothesis =>
      simp only [List.map_cons, List.mem_cons, not_or] at absent
      have different : sameKey (.text first.1) (.text key) = false := by
        simpa [sameKey, content] using Ne.symm absent.1
      simpa [putEntry, different] using inductionHypothesis absent.2
  have all : ∀ built : List (String × Value), ((built ++ fields).map Prod.fst).Nodup →
      (textEntries fields).foldl (fun entries entry => putEntry entry.1 entry.2 entries)
        (textEntries built) = textEntries (built ++ fields) := by
    induction fields with
    | nil => simp
    | cons first rest inductionHypothesis =>
      intro built apart
      have absent : first.1 ∉ built.map Prod.fst := by
        rw [List.map_append, List.nodup_append] at apart
        exact fun present => apart.2.2 _ present _ (by simp) rfl
      rw [List.map_cons, List.nodup_cons] at distinct
      rw [textEntries_cons, List.foldl_cons, put built _ _ absent]
      simpa using inductionHypothesis distinct.2 (built ++ [first]) (by simpa using apart)
  exact congrArg Value.mapping (all [] (by simpa using distinct))

end Fields

/-! ## The same up to the order of entries -/

mutual

/-- Whether two values are the same up to the order in which mappings have their entries. Values are compared
that are made of mappings with texts as keys, lists, texts, integers and nulls. -/
def sameUpToOrder : Value → Value → Bool
  | .null, .null => true
  | .integer other, .integer own => other == own
  | .text other, .text own => other == own
  | .list others, .list items => sameItems others items
  | .mapping others, .mapping entries =>
    others.length == entries.length && sameEntries others entries
  | _, _ => false
termination_by structural _ value => value

/-- Whether the members of two lists are the same, one by one. -/
def sameItems : List Value → List Value → Bool
  | [], [] => true
  | other :: others, item :: items => sameUpToOrder other item && sameItems others items
  | _, _ => false
termination_by structural _ items => items

/-- Whether each of some entries is found among others, under its key and with the same value. -/
def sameEntries (others : List (Value × Value)) : List (Value × Value) → Bool
  | [] => true
  | (.text key, value) :: rest =>
    (match lookup key others with
      | some there => sameUpToOrder there value
      | none => false) && sameEntries others rest
  | _ => false
termination_by structural entries => entries

end

/-- Null, an integer or a text. -/
def isScalar : Value → Bool
  | .null => true
  | .integer _ => true
  | .text _ => true
  | _ => false

/-- A scalar is the same as itself only. -/
theorem eq_of_sameUpToOrder {found value : Value} (scalar : value.isScalar = true)
    (same : found.sameUpToOrder value = true) : found = value := by
  cases value <;> cases scalar <;> cases found <;> simp_all [sameUpToOrder]

theorem sameItems_iff {others items : List Value} :
    sameItems others items = true ↔
      List.Forall₂ (fun other item => other.sameUpToOrder item = true) others items := by
  induction items generalizing others with
  | nil => cases others <;> simp [sameItems]
  | cons item items inductionHypothesis =>
    cases others <;> simp [sameItems, inductionHypothesis]

/-- What is the same as a list is a list with the same members. -/
theorem sameUpToOrder_list_iff {found : Value} {items : List Value} :
    found.sameUpToOrder (.list items) = true ↔ ∃ others, found = .list others ∧
      List.Forall₂ (fun other item => other.sameUpToOrder item = true) others items := by
  cases found <;> simp [sameUpToOrder, sameItems_iff]

theorem sameEntries_textEntries_iff {others : List (Value × Value)} {fields : List (String × Value)} :
    sameEntries others (textEntries fields) = true ↔ ∀ field ∈ fields, ∃ there,
      lookup field.1 others = some there ∧ there.sameUpToOrder field.2 = true := by
  induction fields with
  | nil => simp [sameEntries]
  | cons first rest inductionHypothesis =>
    rw [List.forall_mem_cons, ← inductionHypothesis, textEntries_cons, sameEntries]
    cases lookup first.1 others <;> simp

/-- What is the same as a mapping is a mapping of as many entries, which has the same values under the
keys. -/
theorem sameUpToOrder_mapping_iff {found : Value} {fields : List (String × Value)} :
    found.sameUpToOrder (.mapping (textEntries fields)) = true ↔ ∃ others, found = .mapping others ∧
      others.length = fields.length ∧ ∀ field ∈ fields, ∃ there,
        lookup field.1 others = some there ∧ there.sameUpToOrder field.2 = true := by
  cases found <;> simp [sameUpToOrder, sameEntries_textEntries_iff]

end TraceAutomata.Value
