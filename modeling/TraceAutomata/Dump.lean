import TraceAutomata.Document.ValueFault
import TraceAutomata.Json.Reader
import TraceAutomata.Json.Writer
import TraceAutomata.Network
import TraceAutomata.Yaml.Reader
import TraceAutomata.Yaml.Writer

/-!
# Model dumps

A dump is a network as a document holds it: where a network has a text or a count, a dump has a value,
which need not be a text or a number when the dump was read. `Network.dump` makes a dump of a network, and
`Dump.shown` shows one with every value as a text.

A dump is written as a value and read back from one. The value holds every field except the owners of
locations and edges, which are the templates that hold them. Reading puts objects into registries one
after another, so of several objects with one identifier the last is kept, at the place of the first.
The value is written as JSON with ordered keys or as YAML with the keys in the order of the fields.

Identifiers and references are read as integers, which is what the fields of locations, edges and templates are
declared to hold. A reader that never looks at them would take every value that can be a key in their place;
here such a document is no dump.
-/

namespace TraceAutomata

/-- A network with values in the place of its texts and of its count of locations. -/
abbrev Dump := Network Value Value

/-- The dump of a network. -/
def Network.dump (network : Network) : Dump :=
  network.map Value.text Value.integer

/-- The number of a count of locations; what is no number counts nothing. -/
def Value.count (value : Value) : Int :=
  match value.content with
  | .integer number => number
  | _ => 0

/-- A dump with every value as a text. -/
def Dump.shown [Runtime] (dump : Dump) : Network :=
  dump.map Value.plain Value.count

/-- Showing the dump of a network is the network itself. -/
theorem Network.shown_dump [Runtime] (network : Network) : network.dump.shown = network := by
  have ofExpression {role : Role} (expression : Expression role) :
      (expression.map Value.text).map Value.plain = expression := rfl
  have ofLocation (location : Location) :
      (location.map Value.text).map Value.plain = location := by
    cases location
    simp [Location.map, Value.plain, Value.content, Function.comp_def]
  have ofEdge (edge : Edge) : (edge.map Value.text).map Value.plain = edge := by
    cases edge
    simp [Edge.map, Function.comp_def, ofExpression]
  have ofTemplate (template : Template) :
      (template.map Value.text).map Value.plain = template := by
    cases template
    simp [Template.map, Registry.map, Function.comp_def, ofExpression, ofLocation, ofEdge,
      Value.plain, Value.content]
  cases network
  simp [Network.dump, Dump.shown, Network.map, Registry.map, Function.comp_def, ofExpression,
    ofTemplate, Value.plain, Value.content, Value.count]

/-- Why a value is no dump. -/
inductive DumpFault
  /-- Something that may have entries is no mapping. -/
  | noMapping
  /-- Something that must have fields is no mapping. -/
  | noFields
  /-- Something that must have members is a number or null. -/
  | noMembers
  /-- A field that every object has is missing. -/
  | missing (key : String)
  /-- A field holds a value of another type. -/
  | unfit
  deriving DecidableEq, Repr

/-- The keys of a dump. -/
inductive DumpKey
  | name
  | globalDeclarations
  | systemDeclarations
  | templates
  | locationCount
  | id
  | declarations
  | locations
  | edges
  | init
  | comment
  | source
  | target
  | guard
  | updates
  deriving DecidableEq, Repr

/-- The text of a key. -/
def DumpKey.text : DumpKey → String
  | .name => "name"
  | .globalDeclarations => "global_declarations"
  | .systemDeclarations => "system_declarations"
  | .templates => "templates"
  | .locationCount => "location_count"
  | .id => "id"
  | .declarations => "declarations"
  | .locations => "locations"
  | .edges => "edges"
  | .init => "init"
  | .comment => "comment"
  | .source => "source"
  | .target => "target"
  | .guard => "guard"
  | .updates => "updates"

/-! ## From dumps to values -/

namespace Dump

/-- The mapping of some fields. -/
def mapping (fields : List (DumpKey × Value)) : Value :=
  .mapping (fields.map fun field => (.text field.1.text, field.2))

/-- A value that may be unset. -/
def optional (content : Option Value) : Value :=
  content.getD .null

/-- A reference that may be unset. -/
def optionalReference (reference : Option Int) : Value :=
  (reference.map Value.integer).getD .null

/-- What some expressions hold. -/
def contents {role : Role} (expressions : List (Expression role Value)) : Value :=
  .list (expressions.map Expression.text)

end Dump

/-- A location as a value. -/
def Location.toValue (location : Location Value) : Value :=
  Dump.mapping
    [(.id, .integer location.id), (.name, location.name),
      (.comment, Dump.optional location.comment)]

/-- An edge as a value. -/
def Edge.toValue (edge : Edge Value) : Value :=
  Dump.mapping
    [(.id, .integer edge.id), (.source, Dump.optionalReference edge.source),
      (.target, Dump.optionalReference edge.target),
      (.guard, Dump.optional (edge.guard.map Expression.text)),
      (.updates, Dump.contents edge.updates)]

/-- A template as a value. -/
def Template.toValue (template : Template Value) : Value :=
  Dump.mapping
    [(.id, .integer template.id), (.name, template.name),
      (.declarations, Dump.contents template.declarations),
      (.locations, .list (template.locations.members.map Location.toValue)),
      (.edges, .list (template.edges.members.map Edge.toValue)),
      (.init, Dump.optionalReference template.initial)]

/-- A dump as a value. -/
def Dump.toValue (dump : Dump) : Value :=
  Dump.mapping
    [(.name, dump.name),
      (.globalDeclarations, Dump.contents dump.globalDeclarations),
      (.systemDeclarations, Dump.contents dump.systemDeclarations),
      (.templates, .list (dump.templates.members.map Template.toValue)),
      (.locationCount, dump.locationCount)]

/-! ## From values to dumps -/

namespace Dump

/-- A reading of a value. -/
abbrev Reading (α : Type) := Except DumpFault α

/-- The members of a value: those of a pair, a list or a set, the characters of a text, the numbers of bytes,
the keys of a mapping. -/
def members (value : Value) : Reading (List Value) :=
  match value.content with
  | .pair first second => .ok [first, second]
  | .list items => .ok items
  | .set items => .ok items
  | .bytes bytes => .ok (bytes.map fun byte => .integer byte.toNat)
  | .text text => .ok (text.toList.map fun character => .text (String.singleton character))
  | .mapping entries => .ok (entries.map Prod.fst)
  | _ => .error .noMembers

/-- A field that must be there. -/
def field (key : DumpKey) (value : Value) : Reading Value :=
  match value.content with
  | .mapping entries =>
    match Value.lookup key.text entries with
    | some found => .ok found
    | none => .error (.missing key.text)
  | _ => .error .noFields

/-- A field that may be missing. -/
def field? (key : DumpKey) (value : Value) : Reading (Option Value) :=
  match value.content with
  | .mapping entries => .ok (Value.lookup key.text entries)
  | _ => .error .noMapping

/-- An integer. -/
def integerOf : Value → Reading Int
  | .integer value => .ok value
  | _ => .error .unfit

/-- A value unless it is null or missing. -/
def unlessNull : Option Value → Option Value
  | some .null => none
  | content => content

/-- A reference, unset when it is null or missing. -/
def referenceOf (content : Option Value) : Reading (Option Int) :=
  (unlessNull content).mapM integerOf

/-- The members under a key; a missing key has none. -/
def membersAt (key : DumpKey) (value : Value) : Reading (List Value) := do
  match ← field? key value with
  | none => return []
  | some found => members found

/-- The expressions under a key. -/
def expressionsAt (role : Role) (key : DumpKey) (value : Value) :
    Reading (List (Expression role Value)) := do
  let found ← membersAt key value
  return found.map fun content => ⟨content⟩

/-- Read a location of a template. -/
def readLocation (owner : Int) (value : Value) : Reading (Location Value) := do
  let id ← field .id value
  let name ← field .name value
  let comment ← field? .comment value
  return { id := ← integerOf id, owner, name, comment := unlessNull comment }

/-- Read an edge of a template. -/
def readEdge (owner : Int) (value : Value) : Reading (Edge Value) := do
  let guard ← field? .guard value
  let id ← field .id value
  let source ← field? .source value
  let target ← field? .target value
  let updates ← expressionsAt .update .updates value
  return {
    id := ← integerOf id
    owner
    source := ← referenceOf source
    target := ← referenceOf target
    guard := (unlessNull guard).map fun content => ⟨content⟩
    updates }

/-- Read a template. -/
def readTemplate (value : Value) : Reading (Template Value) := do
  let id ← field .id value
  let name ← field .name value
  let initial ← field? .init value
  let owner ← integerOf id
  let declarations ← expressionsAt .declaration .declarations value
  let locations ← (← membersAt .locations value).mapM (readLocation owner)
  let edges ← (← membersAt .edges value).mapM (readEdge owner)
  return {
    id := owner
    name
    declarations
    locations := .ofList locations
    edges := .ofList edges
    initial := ← referenceOf initial }

/-- The number of locations of some templates. -/
def countLocations (templates : Registry (Template Value)) : Int :=
  templates.members.foldr (fun template count => (template.locations.size : Int) + count) 0

end Dump

/-- The first template whose name is some value, as keys are compared. -/
def Dump.templateNamed? (dump : Dump) (name : Value) : Option (Template Value) :=
  dump.templateWhere? fun present => present.sameKey name

/-- The dump that a value describes. Without a count of locations, those that are there are counted. -/
def Dump.ofValue (value : Value) : Dump.Reading Dump := do
  let name ← Dump.field? .name value
  let globalDeclarations ← Dump.expressionsAt .declaration .globalDeclarations value
  let systemDeclarations ← Dump.expressionsAt .declaration .systemDeclarations value
  let templates := Registry.ofList (← (← Dump.membersAt .templates value).mapM Dump.readTemplate)
  let counted ← Dump.field? .locationCount value
  return {
    name := name.getD (.text "")
    globalDeclarations
    systemDeclarations
    templates
    locationCount := counted.getD (.integer (Dump.countLocations templates)) }

/-! ## Texts of dumps -/

/-- Why a text is not read as a dump. -/
inductive DumpReadFault
  | malformedJson
  | malformedYaml
  | value (fault : ValueFault)
  | shape (fault : DumpFault)
  deriving DecidableEq, Repr

/-- The JSON text of a dump, with the keys of every mapping in order. -/
def Dump.toJson [Runtime] (dump : Dump) : Except ValueFault String :=
  Json.writtenSorted dump.toValue

/-- The YAML text of a dump. -/
def Dump.toYaml [Runtime] (dump : Dump) : Except ValueFault String :=
  Yaml.written dump.toValue

/-- The dump that a JSON text describes. -/
def Dump.ofJson [Runtime] (text : String) : Except DumpReadFault Dump :=
  match Json.read text with
  | .error .malformed => .error .malformedJson
  | .error (.integerTooLong digits) => .error (.value (.integerTooLong digits))
  | .error .nestedTooDeeply => .error (.value .nestedTooDeeply)
  | .ok value => (Dump.ofValue value).mapError .shape

/-- The dump that a YAML text describes. -/
def Dump.ofYaml [Runtime] (text : String) : Except DumpReadFault Dump :=
  match Yaml.read text with
  | .error (.value fault) => .error (.value fault)
  | .error _ => .error .malformedYaml
  | .ok value => (Dump.ofValue value).mapError .shape

end TraceAutomata
