import TraceAutomata.Document.ValueFault
import TraceAutomata.Expression
import TraceAutomata.Registry

/-!
# Networks of timed automata

A network has templates, a template has locations and edges, and all of them refer to each other by
identifiers. An edge names its ends and a template its initial location; such a reference may be unset
or name nothing, which `Network.problems` reports: a network without problems can be rendered.

The type of names and expressions is a parameter. It is the type of texts unless another is named, and
`Network.map` changes one network into another with the same references. So is the type of the count of
locations, which is a number unless another is named.
-/

namespace TraceAutomata

/-- A state of a template's automaton. -/
structure Location (Content : Type := String) where
  id : Int
  owner : Int
  name : Content
  comment : Option Content := none
  deriving DecidableEq, Repr

instance {Content : Type} : Identified (Location Content) := ⟨Location.id⟩

/-- A transition between two locations of a template. It may carry any number of updates. -/
structure Edge (Content : Type := String) where
  id : Int
  owner : Int
  source : Option Int := none
  target : Option Int := none
  guard : Option (Guard Content) := none
  updates : List (Update Content) := []
  deriving DecidableEq, Repr

instance {Content : Type} : Identified (Edge Content) := ⟨Edge.id⟩

/-- One automaton of a network. -/
structure Template (Content : Type := String) where
  id : Int
  name : Content
  declarations : List (Declaration Content) := []
  locations : Registry (Location Content) := .empty
  edges : Registry (Edge Content) := .empty
  initial : Option Int := none
  deriving DecidableEq

instance {Content : Type} : Identified (Template Content) := ⟨Template.id⟩

/-- A network of automata with the declarations they share. `locationCount` numbers the locations that
are created; the name of the network itself is not part of what is rendered. -/
structure Network (Content : Type := String) (Count : Type := Int) where
  name : Content
  globalDeclarations : List (Declaration Content) := []
  systemDeclarations : List (Declaration Content) := []
  templates : Registry (Template Content) := .empty
  locationCount : Count
  deriving DecidableEq

/-- The empty network of a name. -/
def Network.named (name : String) : Network :=
  { name, locationCount := 0 }

/-! ## Changing names and expressions -/

section Map

variable {Content Other : Type}

/-- The location with changed texts. -/
def Location.map (change : Content → Other) (location : Location Content) : Location Other :=
  { id := location.id, owner := location.owner, name := change location.name,
    comment := location.comment.map change }

/-- The edge with changed texts. -/
def Edge.map (change : Content → Other) (edge : Edge Content) : Edge Other :=
  { id := edge.id, owner := edge.owner, source := edge.source, target := edge.target,
    guard := edge.guard.map (Expression.map change),
    updates := edge.updates.map (Expression.map change) }

/-- The template with changed texts. -/
def Template.map (change : Content → Other) (template : Template Content) : Template Other :=
  { id := template.id, name := change template.name,
    declarations := template.declarations.map (Expression.map change),
    locations := template.locations.map (Location.map change) fun _ => rfl,
    edges := template.edges.map (Edge.map change) fun _ => rfl,
    initial := template.initial }

/-- The network with changed texts and a changed count of locations. -/
def Network.map {Count OtherCount : Type} (change : Content → Other) (recount : Count → OtherCount)
    (network : Network Content Count) : Network Other OtherCount :=
  { name := change network.name,
    globalDeclarations := network.globalDeclarations.map (Expression.map change),
    systemDeclarations := network.systemDeclarations.map (Expression.map change),
    templates := network.templates.map (Template.map change) fun _ => rfl,
    locationCount := recount network.locationCount }

end Map

/-! ## Following references -/

namespace Template

variable {Content : Type}

/-- The location of this template under an identifier. -/
def location? (template : Template Content) (wanted : Int) : Option (Location Content) :=
  template.locations.find? wanted

/-- The edge of this template under an identifier. -/
def edge? (template : Template Content) (wanted : Int) : Option (Edge Content) :=
  template.edges.find? wanted

/-- The name of the location that a reference names, if it is set and names one. -/
def locationName? (template : Template Content) (reference : Option Int) : Option Content :=
  (reference.bind template.location?).map Location.name

/-- The initial location, if it is set and is one of the locations. -/
def initialLocation? (template : Template Content) : Option (Location Content) :=
  template.initial.bind template.location?

end Template

namespace Network

variable {Content Count : Type}

/-- The template under an identifier. -/
def template? (network : Network Content Count) (wanted : Int) : Option (Template Content) :=
  network.templates.find? wanted

/-- The first template with such a name. -/
def templateWhere? (network : Network Content Count) (isWanted : Content → Bool) :
    Option (Template Content) :=
  network.templates.members.find? fun template => isWanted template.name

/-- The first template of a name. -/
def templateNamed? (network : Network) (name : String) : Option Template :=
  network.templateWhere? (· == name)

/-- The location under an identifier in the first template that has one. -/
def location? (network : Network Content Count) (wanted : Int) : Option (Location Content) :=
  network.templates.members.findSome? fun template => template.location? wanted

/-- The edge under an identifier in the first template that has one. -/
def edge? (network : Network Content Count) (wanted : Int) : Option (Edge Content) :=
  network.templates.members.findSome? fun template => template.edge? wanted

end Network

/-! ## Problems -/

/-- One of the two ends of an edge. -/
inductive EdgeEnd
  | source
  | target
  deriving DecidableEq, Repr

/-- The word for an end. -/
def EdgeEnd.word : EdgeEnd → String
  | .source => "source"
  | .target => "target"

/-- The reference at one end of an edge. -/
def Edge.reference {Content : Type} (edge : Edge Content) : EdgeEnd → Option Int
  | .source => edge.source
  | .target => edge.target

/-- The edge with one of its ends at a location. -/
def Edge.withEnd (edge : Edge) (which : EdgeEnd) (location : Int) : Edge :=
  match which with
  | .source => { edge with source := some location }
  | .target => { edge with target := some location }

/-- A reference that keeps a network from being rendered, with the name of its template. -/
inductive Problem (Content : Type := String)
  | noInitial (template : Content)
  | foreignInitial (template : Content) (location : Int)
  | openEnd (edge : Int) (template : Content) (which : EdgeEnd)
  | foreignEnd (edge : Int) (template : Content) (which : EdgeEnd) (location : Int)
  deriving DecidableEq, Repr

namespace Problem

variable {Content Other : Type}

/-- The problem with a changed name. -/
def map (change : Content → Other) : Problem Content → Problem Other
  | .noInitial template => .noInitial (change template)
  | .foreignInitial template location => .foreignInitial (change template) location
  | .openEnd edge template which => .openEnd edge (change template) which
  | .foreignEnd edge template which location => .foreignEnd edge (change template) which location

/-- The wording of a problem, if the name and the numbers in it can be written. -/
def wording (written : Content → Except ValueFault String) : Problem Content → Except ValueFault String
  | .noInitial template => do
    let name ← written template
    return "Template '" ++ name ++ "' has no initial location"
  | .foreignInitial template location => do
    let name ← written template
    let place ← Value.integerText location
    return "Template '" ++ name ++ "' initial location " ++ place ++ " is not one of its locations"
  | .openEnd edge template which => do
    let number ← Value.integerText edge
    let name ← written template
    return "Edge " ++ number ++ " in template '" ++ name ++ "' has no " ++ which.word
  | .foreignEnd edge template which location => do
    let number ← Value.integerText edge
    let name ← written template
    let place ← Value.integerText location
    return "Edge " ++ number ++ " in template '" ++ name ++ "' has " ++ which.word ++ " " ++ place
      ++ " outside the template"

/-- The wording of a problem of texts. -/
def message (problem : Problem) : Except ValueFault String :=
  problem.wording .ok

/-- Some problems in one line. -/
def summary (written : Content → Except ValueFault String) (problems : List (Problem Content)) :
    Except ValueFault String := do
  return "; ".intercalate (← problems.mapM (wording written))

end Problem

namespace Template

variable {Content : Type}

/-- What is wrong with the initial location. -/
def initialProblems (template : Template Content) : List (Problem Content) :=
  match template.initial with
  | none => [.noInitial template.name]
  | some location =>
    if template.locations.contains location then [] else [.foreignInitial template.name location]

/-- What is wrong with one end of an edge. -/
def endProblems (template : Template Content) (edge : Edge Content) (which : EdgeEnd) :
    List (Problem Content) :=
  match edge.reference which with
  | none => [.openEnd edge.id template.name which]
  | some location =>
    if template.locations.contains location then []
    else [.foreignEnd edge.id template.name which location]

/-- What is wrong with an edge, its source first. -/
def edgeProblems (template : Template Content) (edge : Edge Content) : List (Problem Content) :=
  template.endProblems edge .source ++ template.endProblems edge .target

/-- What is wrong with a template, its initial location first, then its edges in order. -/
def problems (template : Template Content) : List (Problem Content) :=
  template.initialProblems ++ template.edges.members.flatMap template.edgeProblems

end Template

/-- Everything that keeps a network from being rendered, template by template. -/
def Network.problems {Content Count : Type} (network : Network Content Count) : List (Problem Content) :=
  network.templates.members.flatMap Template.problems

/-- The wordings of the problems of a network. -/
def Network.validate (network : Network) : Except ValueFault (List String) :=
  network.problems.mapM Problem.message

end TraceAutomata
