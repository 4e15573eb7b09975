import TraceAutomata.Document.ValueFault
import TraceAutomata.Proofs.Document.Plain

/-!
# Numbers in texts

A text that shows numbers is written exactly when each of them has few enough digits (`Spelled`). Texts are put
together from numerals, and so is what is said of them.
-/

namespace TraceAutomata

/-- A text that shows some numbers: it is written when all of them are short, and otherwise the fault is that one is
too long. -/
structure Spelled {α : Type} (numbers : List Int) (text : Except ValueFault α) : Prop where
  written : (∃ result, text = .ok result) ↔ ∀ number ∈ numbers, Value.Short number
  fault : ∀ fault, text = .error fault → fault = .tooLongToWrite

namespace Spelled

variable {α β : Type} {numbers others : List Int} {text : Except ValueFault α}

theorem ok (result : α) : Spelled [] (.ok result : Except ValueFault α) :=
  ⟨⟨nofun, fun _ => ⟨result, rfl⟩⟩, nofun⟩

theorem integerText (number : Int) : Spelled [number] (Value.integerText number) := by
  have overlong : Text.isOverlong number = false ↔ Value.Short number := by
    simp [Text.isOverlong, Value.Short]
  cases digits : Text.isOverlong number with
  | false =>
    have same : Value.integerText number = .ok (Text.signedDecimal number) := if_neg (by simp [digits])
    rw [same]
    refine ⟨⟨fun _ => by simpa using overlong.mp digits, fun _ => ⟨_, rfl⟩⟩, ?_⟩
    rintro fault ⟨⟩
  | true =>
    have same : Value.integerText number = .error .tooLongToWrite := if_pos digits
    have long : ¬Value.Short number := by simp [← overlong, digits]
    rw [same]
    refine ⟨⟨?_, fun short => absurd (short number (by simp)) long⟩, ?_⟩
    · rintro ⟨result, ⟨⟩⟩
    · rintro fault ⟨⟩
      rfl

/-- What comes after a text adds its own numbers. -/
theorem bind {rest : α → Except ValueFault β} (first : Spelled numbers text)
    (second : ∀ result, Spelled others (rest result)) : Spelled (numbers ++ others) (text >>= rest) := by
  cases ended : text with
  | ok result =>
    have short := first.written.mp ⟨result, ended⟩
    constructor
    · show (∃ last, rest result = .ok last) ↔ _
      rw [(second result).written, List.forall_mem_append]
      exact ⟨fun rest => ⟨short, rest⟩, And.right⟩
    · exact (second result).fault
  | error fault =>
    have long : ¬∀ number ∈ numbers, Value.Short number := by
      rw [← first.written, ended]
      exact nofun
    constructor
    · rw [List.forall_mem_append]
      exact ⟨nofun, fun both => absurd both.1 long⟩
    · rintro other ⟨⟩
      exact first.fault fault ended

theorem map {change : α → β} (spelled : Spelled numbers text) : Spelled numbers (text.map change) := by
  have followed := spelled.bind fun result => ok (change result)
  rwa [List.append_nil] at followed

/-- Several texts show the numbers of each of them. -/
theorem mapM {items : List α} {numbersOf : α → List Int} {write : α → Except ValueFault β}
    (each : ∀ item ∈ items, Spelled (numbersOf item) (write item)) :
    Spelled (items.flatMap numbersOf) (items.mapM write) := by
  induction items with
  | nil => exact ok []
  | cons item rest inductionHypothesis =>
    obtain ⟨here, others⟩ := List.forall_mem_cons.mp each
    rw [List.mapM_cons, List.flatMap_cons]
    exact here.bind fun _ => (inductionHypothesis others).map

end Spelled

end TraceAutomata
