import TraceAutomata.Document.ValueFault

/-!
# Anchors

A value that stands in several places of another is written once, after an anchor, and named by the anchor
wherever else it stands. Anchors are numbered in the order in which values are met for the second time, on
a walk that goes through each of them only once.
-/

namespace TraceAutomata.Yaml

/-- What a walk through a value has met: the labels, the labels met again in that order, and whether values
stood within each other too deeply. -/
structure Met where
  once : List Nat := []
  again : List Nat := []
  tooDeep : Bool := false

namespace Met

variable [Runtime]

/-- The most collections that may stand within each other where a value is written. -/
def nestingLimit : Nat := Runtime.levels 6 3

/-- Meet a collection that stands in some others. -/
def meetCollection (met : Met) (depth : Nat) : Met :=
  { met with tooDeep := met.tooDeep || nestingLimit ≤ depth }

mutual

/-- Walk through a value that stands in some collections. -/
def meet (depth : Nat) (met : Met) : Value → Met
  | .pair first second =>
    meet (depth + 1) (meet (depth + 1) (met.meetCollection depth) first) second
  | .list items => meetItems (depth + 1) (met.meetCollection depth) items
  | .set items => meetItems (depth + 1) (met.meetCollection depth) items
  | .mapping entries => meetEntries (depth + 1) (met.meetCollection depth) entries
  | .shared label value =>
    if met.again.contains label then met
    else if met.once.contains label then { met with again := met.again ++ [label] }
    else meet depth { met with once := label :: met.once } value
  | _ => met

/-- Walk through the members of a list or a set. -/
def meetItems (depth : Nat) (met : Met) : List Value → Met
  | [] => met
  | item :: rest => meetItems depth (meet depth met item) rest

/-- Walk through the keys and values of a mapping. -/
def meetEntries (depth : Nat) (met : Met) : List (Value × Value) → Met
  | [] => met
  | (key, value) :: rest => meetEntries depth (meet depth (meet depth met key) value) rest

end

end Met

/-- The anchors in a value: the labels of what is met more than once, in the order of their numbers. -/
structure Anchors where
  labels : List Nat

namespace Anchors

/-- The anchors that a value needs. Values that stand within each other too deeply cannot be written. -/
def ofValue [Runtime] (value : Value) : Except ValueFault Anchors :=
  let met := Met.meet 0 {} value
  if met.tooDeep then .error .nestedTooDeeply else .ok ⟨met.again⟩

/-- The name of the anchor of a label, if it has one. -/
def name? (anchors : Anchors) (label : Nat) : Option String :=
  (anchors.labels.findIdx? (· == label)).map fun index =>
    "id" ++ Text.paddedDecimal 3 (index + 1)

end Anchors

end TraceAutomata.Yaml
