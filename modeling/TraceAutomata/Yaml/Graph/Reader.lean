import TraceAutomata.Yaml.Graph
import TraceAutomata.Yaml.Token.Lexer

/-!
# From tokens to graphs

A graph is read from tokens by the grammar of collections. Each node is noted as soon as it has begun, so
that an alias inside it finds it. Tokens are taken no earlier than the grammar looks at them, so of several
faults in a text the one that is met first counts.
-/

namespace TraceAutomata.Yaml

/-- What is known while a document is read: the tokens ahead, what handles of tags stand for, the nodes so
far and the numbers of those with anchors. -/
structure Reading where
  lexer : Lexer
  handles : List (String × String) := []
  anchors : List (String × Nat) := []
  graph : Graph := {}

/-- A step of reading. -/
abbrev Read (α : Type) := StateT Reading (Except Fault) α

variable [Runtime]

namespace Read

/-- End the reading with a fault. -/
def failWith {α : Type} (fault : Fault) : Read α :=
  fun _ => .error fault

/-- The form of the text is wrong. -/
def fail {α : Type} : Read α :=
  failWith .malformed

/-- The next token. -/
def next? : Read (Option Token) :=
  fun reading => do
    let lexer ← reading.lexer.settle
    return (lexer.pending.head?, { reading with lexer })

/-- Pass over the next token. -/
def skip : Read Unit :=
  modify fun reading => { reading with lexer := reading.lexer.give }

/-- Pass over the next token if it is the wanted one. -/
def skipIf (wanted : Token) : Read Bool := do
  if (← next?) == some wanted then
    skip
    return true
  else return false

/-- Whether the next token is one of some. -/
def isAt (wanted : List Token) : Read Bool := do
  return (← next?).any wanted.contains

/-- Add a node: its number. -/
def addNode (kind : Option Kind) (content : Node.Content) : Read Nat :=
  modifyGet fun reading =>
    (reading.graph.nextNumber, { reading with graph := reading.graph.push { kind, content } })

/-- Give a node its content. -/
def setContent (number : Nat) (content : Node.Content) : Read Unit :=
  modify fun reading => { reading with graph := reading.graph.setContent number content }

end Read

open Read

/-- The handles that every document knows. -/
def defaultHandles : List (String × String) :=
  [("!", "!"), ("!!", "tag:yaml.org,2002:")]

/-- The kinds by the tags that name them. -/
def taggedKinds : List (String × Kind) :=
  [("null", .null), ("bool", .boolean), ("int", .integer), ("float", .float),
   ("timestamp", .timestamp), ("merge", .merge), ("value", .default), ("str", .text),
   ("binary", .binary), ("seq", .list), ("omap", .pairs), ("pairs", .pairs), ("set", .set),
   ("map", .mapping)]

/-- The kind that a complete tag names. -/
def Kind.ofTag? (tag : String) : Option Kind :=
  (taggedKinds.find? fun entry => tag == "tag:yaml.org,2002:" ++ entry.1).map Prod.snd

/-- The tag of a node, resolved as far as its handle goes: none, the lone exclamation mark that asks for the
default kind, or a complete tag. -/
inductive NodeTag
  | absent
  | default
  | complete (tag : String)

/-- Replace the handle of a tag by what it stands for. -/
def resolveTag (written : TagText) : Read NodeTag := do
  match written.handle with
  | none => return if written.suffix == "!" then .default else .complete written.suffix
  | some handle =>
    let reading ← get
    match (reading.handles ++ defaultHandles).find? fun entry => entry.1 == handle with
    | none => fail
    | some entry =>
      let tag := entry.2 ++ written.suffix
      return if tag == "!" then .default else .complete tag

/-- What stands before the content of a node. -/
structure Properties where
  anchor : Option String := none
  tag : NodeTag := .absent

/-- Read an anchor, if one is next. -/
def readAnchor : Read (Option String) := do
  match ← next? with
  | some (.anchor name) =>
    skip
    return some name
  | _ => return none

/-- Read a tag, if one is next. -/
def readTag : Read (Option TagText) := do
  match ← next? with
  | some (.tag written) =>
    skip
    return some written
  | _ => return none

/-- Read an anchor and a tag in either order, both optional. -/
def readProperties : Read Properties := do
  let anchorFirst ← readAnchor
  let written ← readTag
  let anchor ← if anchorFirst.isNone && written.isSome then readAnchor else pure anchorFirst
  match written with
  | none => return { anchor }
  | some text => return { anchor, tag := ← resolveTag text }

/-- The kind of a scalar: by its tag, or by its text if it is plain or asks for the default kind. -/
def scalarKind (tag : NodeTag) (isPlain : Bool) (text : String) : Option Kind :=
  match tag with
  | .complete named => Kind.ofTag? named
  | .default => some (Kind.ofPlain text.toList)
  | .absent => some (if isPlain then Kind.ofPlain text.toList else .text)

/-- The kind of a collection: by its tag, or the usual one. -/
def collectionKind (tag : NodeTag) (usual : Kind) : Option Kind :=
  match tag with
  | .complete named => Kind.ofTag? named
  | _ => some usual

/-- Add the scalar that stands where none is written. -/
def addEmptyScalar : Read Nat :=
  addNode (some .null) (.scalar "")

/-- Add a node and note its anchor. An anchor may be given only once. -/
def beginNode (anchor : Option String) (kind : Option Kind) (content : Node.Content) : Read Nat := do
  match anchor with
  | none => addNode kind content
  | some name =>
    if (← get).anchors.any fun entry => entry.1 == name then fail
    else
      let number ← addNode kind content
      modify fun reading => { reading with anchors := (name, number) :: reading.anchors }
      return number

/-- Add a collection: its node is noted before its members are read. -/
def addCollection (anchor : Option String) (kind : Option Kind) (empty : Node.Content)
    (readMembers : Read Node.Content) : Read Nat := do
  let number ← beginNode anchor kind empty
  setContent number (← readMembers)
  return number

/-- The node that an alias stands for. -/
def aliased (name : String) : Read Nat := do
  match (← get).anchors.lookup name with
  | some number => return number
  | none => fail

/-- Where a node stands, which decides the forms it may have. -/
inductive Setting
  | block
  | blockOrDashes
  | flow
  deriving DecidableEq

/-- The most collections that a node may stand in. -/
def nestingLimit : Nat := Runtime.levels 12 2

mutual

/-- Read a node that stands in some collections: its number. -/
def readNode : Nat → Nat → Setting → Read Nat
  | 0, _, _ => fail
  | bound + 1, depth, setting => do
    if nestingLimit < depth then failWith (.value .nestedTooDeeply)
    match ← next? with
    | some (.alias name) =>
      skip
      aliased name
    | _ =>
      let properties ← readProperties
      readContent bound depth setting properties

/-- Read the content of a node after its properties. A node with properties may have no content. -/
def readContent : Nat → Nat → Setting → Properties → Read Nat
  | 0, _, _, _ => fail
  | bound + 1, depth, setting, properties => do
    let addList := addCollection properties.anchor (collectionKind properties.tag .list) (.list [])
    let addMapping :=
      addCollection properties.anchor (collectionKind properties.tag .mapping) (.mapping [])
    match ← next?, setting with
    | some .blockEntry, .blockOrDashes => addList do return .list (← readDashes bound (depth + 1))
    | some (.scalar text isPlain), _ =>
      skip
      beginNode properties.anchor (scalarKind properties.tag isPlain text) (.scalar text)
    | some .flowSequenceStart, _ =>
      addList do
        skip
        return .list (← readFlowItems bound (depth + 1) true)
    | some .flowMappingStart, _ =>
      addMapping do
        skip
        return .mapping (← readFlowEntries bound (depth + 1) true)
    | some .blockSequenceStart, .block | some .blockSequenceStart, .blockOrDashes =>
      addList do
        skip
        return .list (← readBlockItems bound (depth + 1))
    | some .blockMappingStart, .block | some .blockMappingStart, .blockOrDashes =>
      addMapping do
        skip
        return .mapping (← readBlockEntries bound (depth + 1))
    | _, _ =>
      match properties.anchor, properties.tag with
      | none, .absent => fail
      | anchor, tag => beginNode anchor (scalarKind tag true "") (.scalar "")

/-- Read the entries of a block list up to its end. -/
def readBlockItems : Nat → Nat → Read (List Nat)
  | 0, _ => fail
  | bound + 1, depth => do
    if ← skipIf .blockEntry then
      let item ←
        if ← isAt [.blockEntry, .blockEnd] then addEmptyScalar else readNode bound depth .block
      return item :: (← readBlockItems bound depth)
    else if ← skipIf .blockEnd then return []
    else fail

/-- Read the entries of a list whose dashes stand at the column of the key it belongs to. -/
def readDashes : Nat → Nat → Read (List Nat)
  | 0, _ => fail
  | bound + 1, depth => do
    if ← skipIf .blockEntry then
      let item ←
        if ← isAt [.blockEntry, .key, .value, .blockEnd] then addEmptyScalar
        else readNode bound depth .block
      return item :: (← readDashes bound depth)
    else return []

/-- Read the entries of a block mapping up to its end. -/
def readBlockEntries : Nat → Nat → Read (List (Nat × Nat))
  | 0, _ => fail
  | bound + 1, depth => do
    if ← skipIf .key then
      let key ← readBlockPart bound depth
      let value ← if ← skipIf .value then readBlockPart bound depth else addEmptyScalar
      return (key, value) :: (← readBlockEntries bound depth)
    else if ← skipIf .blockEnd then return []
    else fail

/-- Read the key or the value of a block mapping's entry, which may be left out. -/
def readBlockPart : Nat → Nat → Read Nat
  | 0, _ => fail
  | bound + 1, depth => do
    if ← isAt [.key, .value, .blockEnd] then addEmptyScalar
    else readNode bound depth .blockOrDashes

/-- Read the key and the value of a flow member up to a bracket or brace; each may be left out. -/
def readFlowPair : Nat → Nat → Token → Read (Nat × Nat)
  | 0, _, _ => fail
  | bound + 1, depth, closing => do
    let key ←
      if ← isAt [.value, .flowEntry, closing] then addEmptyScalar else readNode bound depth .flow
    let value ←
      if ← skipIf .value then
        if ← isAt [.flowEntry, closing] then addEmptyScalar else readNode bound depth .flow
      else addEmptyScalar
    return (key, value)

/-- Read the members of a flow list up to its bracket. A member with a key is a mapping of one entry. -/
def readFlowItems : Nat → Nat → Bool → Read (List Nat)
  | 0, _, _ => fail
  | bound + 1, depth, isFirst => do
    if ← skipIf .flowSequenceEnd then return []
    if !isFirst then
      if !(← skipIf .flowEntry) then fail
    if (← next?) == some .key then
      let item ← addCollection none (some .mapping) (.mapping []) do
        skip
        return .mapping [← readFlowPair bound (depth + 1) .flowSequenceEnd]
      return item :: (← readFlowItems bound depth false)
    else if ← skipIf .flowSequenceEnd then return []
    else
      let item ← readNode bound depth .flow
      return item :: (← readFlowItems bound depth false)

/-- Read the entries of a flow mapping up to its brace. A member without a key has no value. -/
def readFlowEntries : Nat → Nat → Bool → Read (List (Nat × Nat))
  | 0, _, _ => fail
  | bound + 1, depth, isFirst => do
    if ← skipIf .flowMappingEnd then return []
    if !isFirst then
      if !(← skipIf .flowEntry) then fail
    if ← skipIf .key then
      let entry ← readFlowPair bound depth .flowMappingEnd
      return entry :: (← readFlowEntries bound depth false)
    else if ← skipIf .flowMappingEnd then return []
    else
      let key ← readNode bound depth .flow
      return (key, ← addEmptyScalar) :: (← readFlowEntries bound depth false)

end

/-! ## Documents -/

/-- Read the directives before a document. -/
def readDirectives : Nat → Bool → Read Unit
  | 0, _ => fail
  | bound + 1, hasVersion => do
    match ← next? with
    | some (.versionDirective major) =>
      if hasVersion || major != 1 then fail
      else
        skip
        readDirectives bound true
    | some (.tagDirective handle beginning) =>
      let reading ← get
      if reading.handles.any fun entry => entry.1 == handle then fail
      else
        set { reading with handles := (handle, beginning) :: reading.handles }
        skip
        readDirectives bound hasVersion
    | some .otherDirective =>
      skip
      readDirectives bound hasVersion
    | _ => return ()

/-- Whether the next token is a directive. -/
def isAtDirective : Read Bool := do
  match ← next? with
  | some (.versionDirective _) => return true
  | some (.tagDirective _ _) => return true
  | some .otherDirective => return true
  | _ => return false

/-- Pass over marks of a document's end. -/
def skipDocumentEnds : Nat → Read Unit
  | 0 => return ()
  | bound + 1 => do
    if ← skipIf .documentEnd then skipDocumentEnds bound

/-- Read the root after the mark of a document's start. -/
def readRoot (bound : Nat) : Read Nat := do
  if (← isAtDirective) || (← isAt [.documentStart, .documentEnd, .streamEnd]) then addEmptyScalar
  else readNode bound 0 .block

/-- Refuse whatever stands behind the document. The directives of a second one are still looked at. -/
def readEnd (bound : Nat) : Read Unit := do
  skipDocumentEnds bound
  if !(← isAt [.streamEnd]) then
    modify fun reading => { reading with handles := [] }
    readDirectives bound false
    fail

/-- Read the one document of a text: the number of its root. A text without any has no root. -/
def readDocument (bound : Nat) : Read (Option Nat) := do
  if ← isAt [.streamEnd] then return none
  let isMarked := (← isAtDirective) || (← isAt [.documentStart])
  let root ←
    if isMarked then
      readDirectives bound false
      if ← skipIf .documentStart then readRoot bound else fail
    else readNode bound 0 .block
  readEnd bound
  return some root

/-- A bound on the steps of reading: each character gives at most four tokens, and each token takes at most
four steps. -/
def readingBound (source : Source) : Nat :=
  16 * source.characters.length + 16

/-- The graph that a text writes, and the number of its root. -/
def Graph.ofSource (source : Source) : Except Fault (Graph × Option Nat) :=
  ((readDocument (readingBound source)).run { lexer := .ofSource source }).map fun read =>
    (read.2.graph, read.1)

end TraceAutomata.Yaml
