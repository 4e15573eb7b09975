import TraceAutomata.Yaml.Resolution
import TraceAutomata.Yaml.Source

/-!
# Graphs of nodes

What a document writes, before values are built: scalars, lists and mappings, each with the kind of value
it names. Nodes have numbers and name their members by them, because an alias stands for the very node of
its anchor, which may be one that it stands in.

`Graph.flatten` replaces the entries under the sign of merging by the entries they name.
-/

namespace TraceAutomata.Yaml

/-- What a node holds. -/
inductive Node.Content
  | scalar (text : String)
  | list (items : List Nat)
  | mapping (entries : List (Nat × Nat))
  deriving DecidableEq, Repr

/-- A node. A kind is missing when the node has a tag that names none. -/
structure Node where
  kind : Option Kind
  content : Node.Content
  deriving DecidableEq, Repr

/-- The nodes of a document by their numbers. -/
structure Graph where
  nodes : Array Node := #[]

namespace Graph

/-- The node of a number; a number without a node has one that names no value. -/
def node (graph : Graph) (number : Nat) : Node :=
  (graph.nodes[number]?).getD { kind := none, content := .scalar "" }

/-- The number of the node that is added next. -/
def nextNumber (graph : Graph) : Nat :=
  graph.nodes.size

/-- Add a node. -/
def push (graph : Graph) (node : Node) : Graph :=
  { graph with nodes := graph.nodes.push node }

/-- Change the content of a node. -/
def setContent (graph : Graph) (number : Nat) (content : Node.Content) : Graph :=
  { graph with nodes := graph.nodes.modify number fun node => { node with content } }

/-- Change the kind of a node. -/
def setKind (graph : Graph) (number : Nat) (kind : Kind) : Graph :=
  { graph with nodes := graph.nodes.modify number fun node => { node with kind := some kind } }

/-- The entries of a mapping; any other node has none. -/
def entries (graph : Graph) (number : Nat) : List (Nat × Nat) :=
  match (graph.node number).content with
  | .mapping entries => entries
  | _ => []

/-- Whether a node is of a kind. -/
def hasKind (graph : Graph) (kind : Kind) (number : Nat) : Bool :=
  (graph.node number).kind == some kind

/-! ## Merged mappings -/

/-- The number of entries under the sign of merging. -/
def mergeCount (graph : Graph) : Nat :=
  graph.nodes.foldl (fun count node =>
    match node.content with
    | .mapping entries => count + entries.countP fun entry => graph.hasKind .merge entry.1
    | _ => count) 0

/-- The value of the first entry of a mapping under the sign of merging, and the other entries. -/
def takeMerge? (graph : Graph) : List (Nat × Nat) → Option (Nat × List (Nat × Nat))
  | [] => none
  | entry :: rest =>
    if graph.hasKind .merge entry.1 then some (entry.2, rest)
    else (graph.takeMerge? rest).map fun taken => (taken.1, entry :: taken.2)

/-- Make the default sign an ordinary text where it is a key of a mapping. -/
def useDefaultKeys (graph : Graph) (number : Nat) : Graph :=
  (graph.entries number).foldl (fun current entry =>
    if current.hasKind .default entry.1 then current.setKind entry.1 .text else current) graph

/-- Put entries in front of those of a mapping. -/
def prependEntries (graph : Graph) (number : Nat) (entries : List (Nat × Nat)) : Graph :=
  if entries.isEmpty then graph
  else graph.setContent number (.mapping (entries ++ graph.entries number))

/-- Replace the entries of a mapping that are under the sign of merging, one after another; `merged` holds
the entries found so far, which come first in the end, so that the mapping's own entries win. Of a list of
mappings the last one comes first, so that an earlier one wins. An entry is taken out before its value is
looked at, so a mapping may be merged into itself; `bound` is at least the number of such entries. -/
def flattenFrom : Nat → Nat → List (Nat × Nat) → Graph → Except Fault Graph
  | bound, number, merged, graph =>
    match graph.takeMerge? (graph.entries number) with
    | none => .ok ((graph.useDefaultKeys number).prependEntries number merged)
    | some (value, others) =>
      match bound with
      | 0 => .error .malformed
      | bound + 1 => do
        let without := graph.setContent number (.mapping others)
        match (without.node value).content with
        | .mapping _ =>
          let after ← flattenFrom bound value [] without
          flattenFrom bound number (merged ++ after.entries value) after
        | .list items =>
          let (after, parts) ← items.foldlM (fun (current, parts) item =>
            match (current.node item).content with
            | .mapping _ => do
              let flat ← flattenFrom bound item [] current
              return (flat, flat.entries item :: parts)
            | _ => throw Fault.malformed) (without, ([] : List (List (Nat × Nat))))
          flattenFrom bound number (merged ++ parts.flatten) after
        | .scalar _ => throw .malformed

/-- Replace the entries of a mapping that are under the sign of merging. -/
def flatten (bound number : Nat) (graph : Graph) : Except Fault Graph :=
  flattenFrom bound number [] graph

end Graph

end TraceAutomata.Yaml
