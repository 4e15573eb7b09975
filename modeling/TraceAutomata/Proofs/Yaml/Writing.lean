import TraceAutomata.Proofs.Document.Plain
import TraceAutomata.Yaml.Writer

/-!
# Plain values are written as YAML

The writer refuses integers with too many digits and collections that stand within each other too deeply. A
walk through a plain value meets no collection beyond its levels, so nothing else stands in the way.
-/

namespace TraceAutomata.Yaml

open Value (Plain textEntries)

variable [Runtime]

namespace Met

variable {Fits : Int → Prop} {Kept : String → Prop} {levels depth : Nat}

theorem tooDeep_meetCollection (shallow : depth < nestingLimit) (met : Met) :
    (met.meetCollection depth).tooDeep = met.tooDeep := by
  simp [meetCollection, Nat.not_le.mpr shallow]

theorem tooDeep_meetItems {items : List Value}
    (members : ∀ item ∈ items, ∀ met, (meet depth met item).tooDeep = met.tooDeep) (met : Met) :
    (meetItems depth met items).tooDeep = met.tooDeep := by
  induction items generalizing met with
  | nil => rfl
  | cons item rest inductionHypothesis =>
    rw [List.forall_mem_cons] at members
    rw [meetItems, inductionHypothesis members.2, members.1]

theorem tooDeep_meetEntries {fields : List (String × Value)}
    (values : ∀ field ∈ fields, ∀ met, (meet depth met field.2).tooDeep = met.tooDeep) (met : Met) :
    (meetEntries depth met (textEntries fields)).tooDeep = met.tooDeep := by
  induction fields generalizing met with
  | nil => rfl
  | cons field rest inductionHypothesis =>
    rw [List.forall_mem_cons] at values
    rw [Value.textEntries_cons, meetEntries, inductionHypothesis values.2, values.1]
    rfl

/-- A walk through a plain value goes no deeper than its levels. -/
theorem tooDeep_meet {value : Value} (plain : Plain Fits Kept levels value)
    (shallow : depth + levels ≤ nestingLimit) (met : Met) :
    (meet depth met value).tooDeep = met.tooDeep := by
  induction plain generalizing depth met with
  | null => rfl
  | integer => rfl
  | text => rfl
  | list members inductionHypothesis =>
    rw [meet, tooDeep_meetItems fun item among => inductionHypothesis item among (by omega)]
    exact tooDeep_meetCollection (by omega) met
  | mapping distinct keys values inductionHypothesis =>
    rw [meet, tooDeep_meetEntries fun field among => inductionHypothesis field among (by omega)]
    exact tooDeep_meetCollection (by omega) met

end Met

/-- There is room for the collections of a dump. -/
theorem six_le_nestingLimit : 6 ≤ Met.nestingLimit := by
  have roomy := Runtime.roomy
  rw [Met.nestingLimit, Runtime.levels]
  omega

/-- A plain value without overlong integers is written. -/
theorem exists_written {Fits : Int → Prop} {Kept : String → Prop} {value : Value}
    (plain : Plain Fits Kept Met.nestingLimit value) (fits : value.hasOverlongInteger = false) :
    ∃ text, written value = .ok text := by
  have shallow : (Met.meet 0 {} value).tooDeep = false := Met.tooDeep_meet plain (by omega) {}
  simp [written, fits, Anchors.ofValue, shallow, bind, Except.bind, pure, Except.pure]

end TraceAutomata.Yaml
