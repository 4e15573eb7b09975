import TraceAutomata.Yaml.Graph
import TraceAutomata.Yaml.Scalar

/-!
# Values of nodes, part by part

Values are built from the root downwards, one level after another: a scalar has its value as soon as it is
met, while a list or a mapping is filled only when all that was met before it is filled. So of several nodes
that name no value the one nearest to the root is reported, and of those the first.

The parts that come out name each other by the numbers of their nodes, as nodes do; the pairs in a list of
pairs have numbers beyond those of the nodes. Unlike a node, a mapping among the parts has no two entries of
the same key.
-/

namespace TraceAutomata.Yaml

/-- The value of a node, as far as it is known without the values of its members. -/
inductive Part
  | scalar (value : Value)
  | pair (first second : Nat)
  | list (items : List Nat)
  | set (items : List Nat)
  | mapping (entries : List (Nat × Nat))

/-- What is known while values are built: the nodes, the parts that were begun, the nodes that wait to be
filled, last one first, and a bound on the entries to be merged. -/
structure Building where
  graph : Graph
  parts : Array (Option Part)
  waiting : List Nat := []
  mergeBound : Nat

/-- A step of building. -/
abbrev Build (α : Type) := StateT Building (Except Fault) α

namespace Build

/-- End the building with a fault. -/
def failWith {α : Type} (fault : Fault) : Build α :=
  fun _ => .error fault

/-- The document has no such form. -/
def fail {α : Type} : Build α :=
  failWith .malformed

/-- The part of a node that was begun. -/
def part? (number : Nat) : Build (Option Part) := do
  return ((← get).parts[number]?).join

/-- Note the part of a node. -/
def setPart (number : Nat) (part : Part) : Build Unit :=
  modify fun building => { building with parts := building.parts.setIfInBounds number (some part) }

/-- Note a part that has no node of its own: its number. -/
def addPart (part : Part) : Build Nat :=
  modifyGet fun building =>
    (building.parts.size, { building with parts := building.parts.push (some part) })

/-- Note the part of a node that is filled later. -/
def postpone (number : Nat) (part : Part) : Build Unit := do
  setPart number part
  modify fun building => { building with waiting := number :: building.waiting }

/-- The text that a node stands for as a scalar: its own, or for a mapping that of the value under its
default sign. A mapping that leads to itself in this way has none. -/
def scalarText (graph : Graph) : Nat → Nat → Except Fault String
  | 0, _ => .error (.value .nestedTooDeeply)
  | bound + 1, number =>
    match (graph.node number).content with
    | .scalar text => .ok text
    | .list _ => .error .malformed
    | .mapping entries =>
      match entries.find? fun entry => graph.hasKind .default entry.1 with
      | some (_, value) => scalarText graph bound value
      | none => .error .malformed

/-- Whether a node is a scalar. -/
def isScalar (graph : Graph) (number : Nat) : Bool :=
  match (graph.node number).content with
  | .scalar _ => true
  | _ => false

/-- The value of a node of a kind that scalars have. A timestamp must be a scalar itself. -/
def scalarValue (kind : Kind) (number : Nat) : Build Value := do
  let graph := (← get).graph
  match scalarText graph (graph.nodes.size + 1) number with
  | .error fault => failWith fault
  | .ok text =>
    if kind == .timestamp && !isScalar graph number then failWith (.value .textExpected)
    else
      match readScalar? kind text with
      | some (.ok value) => return value
      | some (.error fault) => failWith (.value fault)
      | none => fail

/-- Begin the value of a node, unless it was begun before. -/
def begin (number : Nat) : Build Unit := do
  if (← part? number).isNone then
    match ((← get).graph.node number).kind with
    | none => fail
    | some .list => postpone number (.list [])
    | some .pairs => postpone number (.list [])
    | some .set => postpone number (.set [])
    | some .mapping => postpone number (.mapping [])
    | some .merge => fail
    | some .default => fail
    | some .indicator => fail
    | some kind => setPart number (.scalar (← scalarValue kind number))

/-- The value of a node that is used as a key. A list or mapping is none. -/
def keyValue (number : Nat) : Build Value := do
  match ← part? number with
  | some (.scalar value) => return value
  | _ => fail

/-- Whether a key is the float that is no number, written as the word for it. Written otherwise it is
another value each time. -/
def isNotANumberKey (graph : Graph) (key : Nat × Value) : Bool :=
  match key.2 with
  | .float .notANumber =>
    match scalarText graph (graph.nodes.size + 1) key.1 with
    | .ok text => dropSign (Text.lowerCaseFrom [] (dropGrouping text.toList)) == ".nan".toList
    | .error _ => false
  | _ => false

/-- Whether two keys are the same: keys of one node are, and so are any two words for the float that is no
number. -/
def isSameKey (graph : Graph) (first second : Nat × Value) : Bool :=
  first.1 == second.1 || Value.sameKey first.2 second.2
    || (isNotANumberKey graph first && isNotANumberKey graph second)

/-- Give a key a value among some entries. A key that is there keeps its place and takes the new value. -/
def putEntry (graph : Graph) (key : Nat × Value) (value : Nat) :
    List ((Nat × Value) × Nat) → List ((Nat × Value) × Nat)
  | [] => [(key, value)]
  | entry :: rest =>
    if isSameKey graph entry.1 key then (entry.1, value) :: rest
    else entry :: putEntry graph key value rest

/-- Begin the keys and values of some entries, one entry after another. -/
def fillEntries : List (Nat × Nat) → List ((Nat × Value) × Nat) →
    Build (List ((Nat × Value) × Nat))
  | [], filled => return filled
  | (key, value) :: rest, filled => do
    begin key
    let found ← keyValue key
    begin value
    fillEntries rest (putEntry (← get).graph (key, found) value filled)

/-- Fill a mapping or a set: its entries after merging. -/
def fillMapping (number : Nat) : Build (List ((Nat × Value) × Nat)) := do
  let building ← get
  match building.graph.flatten building.mergeBound number with
  | .error fault => failWith fault
  | .ok graph =>
    set { building with graph }
    fillEntries (graph.entries number) []

/-- Begin the key and the value of a mapping with one entry, and note them as a pair. -/
def beginPair (number : Nat) : Build Nat := do
  match ((← get).graph.node number).content with
  | .mapping [(first, second)] =>
    begin first
    begin second
    addPart (.pair first second)
  | _ => fail

/-- Begin the members of a node that waits. A node whose tag names the other sort of collection has none. -/
def fill (number : Nat) : Build Unit := do
  let node := (← get).graph.node number
  match node.kind, node.content with
  | some .list, .list items =>
    items.forM begin
    setPart number (.list items)
  | some .pairs, .list items =>
    setPart number (.list (← items.mapM beginPair))
  | some .set, .mapping _ =>
    setPart number (.set ((← fillMapping number).map fun entry => entry.1.1))
  | some .mapping, .mapping _ =>
    setPart number (.mapping ((← fillMapping number).map fun entry => (entry.1.1, entry.2)))
  | _, _ => fail

/-- Fill what waits, level by level. No node waits twice, so the number of nodes bounds the levels. -/
def fillLevels : Nat → Build Unit
  | 0 => return ()
  | bound + 1 => do
    let level := (← get).waiting.reverse
    modify fun building => { building with waiting := [] }
    if !level.isEmpty then
      level.forM fill
      fillLevels bound

end Build

/-- The parts of the value of a node. -/
def Graph.parts (graph : Graph) (root : Nat) : Except Fault (Array (Option Part)) :=
  let count := graph.nodes.size
  let building : Building :=
    { graph, parts := Array.replicate count none, mergeBound := graph.mergeCount }
  ((Build.begin root *> Build.fillLevels (count + 1)).run building).map fun built => built.2.parts

end TraceAutomata.Yaml
