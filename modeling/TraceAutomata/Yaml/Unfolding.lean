import TraceAutomata.Yaml.Parts

/-!
# Unfolding parts into values

A value is put together from its parts in one walk that comes to members before the collections they stand
in. A set lists its members in an order of its own. Parts that stand in several places become values with a label:
those that are named more than once, and all that stands in them. A part that stands in itself is met again before
it is put together; what it holds there is then filled in by further walks, so many that whoever goes through the
value from any place in it finds a label again before an end.
-/

namespace TraceAutomata.Yaml

/-- What a walk knows of a part. -/
inductive Mark
  | unseen
  | entered
  | left
  deriving DecidableEq

/-- What a walk has found: the mark of every part, the parts that are named again after the first time, the
parts it has left, last one first, and how often it came back to a part it was in. -/
structure Walk where
  marks : Array Mark
  again : List Nat := []
  order : List Nat := []
  returns : Nat := 0

namespace Walk

/-- The members of a part. -/
def members : Option Part → List Nat
  | some (.pair first second) => [first, second]
  | some (.list items) => items
  | some (.set items) => items
  | some (.mapping entries) => entries.flatMap fun entry => [entry.1, entry.2]
  | _ => []

/-- Come to a part for the first time. -/
def enter (number : Nat) : Walk → Walk
  | ⟨marks, again, order, returns⟩ =>
    ⟨marks.setIfInBounds number .entered, again, order, returns⟩

/-- Go on from a part after all that it holds. -/
def leave (number : Nat) : Walk → Walk
  | ⟨marks, again, order, returns⟩ =>
    ⟨marks.setIfInBounds number .left, again, number :: order, returns⟩

/-- Walk through a part and all that it holds. The walk is in each part at most once, so the number of parts
bounds its depth. -/
def visit (parts : Array (Option Part)) : Nat → Walk → Nat → Walk
  | 0, walk, _ => walk
  | bound + 1, walk, number =>
    match (walk.marks[number]?).getD .left with
    | .left => { walk with again := number :: walk.again }
    | .entered => { walk with returns := walk.returns + 1 }
    | .unseen =>
      ((members (parts[number]?).join).foldl (visit parts bound) (walk.enter number)).leave number

/-- Walk through the parts of a root. -/
def through (parts : Array (Option Part)) (root : Nat) : Walk :=
  visit parts (parts.size + 1) { marks := Array.replicate parts.size .unseen } root

/-- Set the places of some numbers. -/
def setAll (numbers : List Nat) (flags : Array Bool) : Array Bool :=
  numbers.foldl (fun current number => current.setIfInBounds number true) flags

/-- Which parts stand in several places. Where no part stands in itself, the walk has left every part after
all that stands in it; otherwise any part may. -/
def sharing (walk : Walk) (parts : Array (Option Part)) : Array Bool :=
  if 0 < walk.returns then Array.replicate parts.size true
  else
    walk.order.foldl (fun flags number =>
      if (flags[number]?).getD false then setAll (members (parts[number]?).join) flags else flags)
      (setAll walk.again (Array.replicate parts.size false))

/-- Whether a part can be told from another one with the same content: pairs, lists, sets, mappings, dates and
times can. -/
def hasIdentity : Value → Bool
  | .date _ => true
  | .dateTime _ => true
  | .pair _ _ => true
  | .list _ => true
  | .set _ => true
  | .mapping _ => true
  | _ => false

/-- A value with a label, if its part stands in several places. -/
def labelled (isShared : Array Bool) (number : Nat) (value : Value) : Value :=
  if hasIdentity value && (isShared[number]?).getD false then .shared number value else value

section Values

variable [Runtime]

/-- The value of a part from the values of its members, as far as they are known. -/
def valueOf (isShared : Array Bool) (values : Array Value) (number : Nat) (part : Part) : Value :=
  let member (index : Nat) : Value := (values[index]?).getD .null
  labelled isShared number <|
    match part with
    | .scalar value => value
    | .pair first second => .pair (member first) (member second)
    | .list items => .list (items.map member)
    | .set items => .set (Runtime.listed Value.plain (items.map member))
    | .mapping entries => .mapping (entries.map fun entry => (member entry.1, member entry.2))

/-- The values of all parts before any member is known. -/
def emptyValues (isShared : Array Bool) (parts : Array (Option Part)) : Array Value :=
  parts.mapIdx fun number part =>
    match part with
    | some (.scalar value) => labelled isShared number value
    | some (.pair _ _) => labelled isShared number (.pair .null .null)
    | some (.list _) => labelled isShared number (.list [])
    | some (.set _) => labelled isShared number (.set [])
    | some (.mapping _) => labelled isShared number (.mapping [])
    | none => .null

/-- Put all parts together once more, members first. -/
def assemble (walk : Walk) (isShared : Array Bool) (parts : Array (Option Part))
    (values : Array Value) : Array Value :=
  walk.order.reverse.foldl (fun current number =>
    match (parts[number]?).join with
    | some part => current.setIfInBounds number (valueOf isShared current number part)
    | none => current) values

end Values

/-- The number of walks: one is enough unless some part stands in itself. -/
def rounds (walk : Walk) : Nat :=
  if walk.returns == 0 then 1 else walk.returns + 8

end Walk

/-- The value of a root. -/
def Graph.valueOf [Runtime] (graph : Graph) (root : Nat) : Except Fault Value := do
  let parts ← graph.parts root
  let walk := Walk.through parts root
  let isShared := walk.sharing parts
  let values :=
    walk.rounds.repeat (walk.assemble isShared parts) (Walk.emptyValues isShared parts)
  return (values[root]?).getD .null

end TraceAutomata.Yaml
