import TraceAutomata.Journal
import TraceAutomata.Network

/-!
# Builders

A builder owns one network and grows it command by command. Commands name objects by handles; a handle
is looked up each time, in the network as it then is. A command changes the builder in place and may fail
between two changes; nothing is undone then, so a command looks all its handles up before its first change.

Identifiers are given out in order: templates and edges by counters of their own, locations by the number
of locations created so far, which also ends the name of a location.
-/

namespace TraceAutomata

/-- A network under construction, and the identifiers that come next. -/
structure Builder where
  network : Network := .named ""
  nextTemplate : Int := 0
  nextEdge : Int := 0
  deriving DecidableEq

/-- Why a command fails. -/
inductive BuildError
  | unknownTemplate (handle : Option TemplateHandle)
  | foreignLocation (handle : LocationHandle) (template : String)
  | unknownLocation (handle : LocationHandle)
  | absentLocation
  | incomplete (problems : List Problem)
  deriving DecidableEq, Repr

/-- The wording of an error. An error with a number that cannot be written has none; what is raised in its place is
the fault of writing it. -/
def BuildError.message : BuildError → Except ValueFault String
  | .unknownTemplate none => return "Unknown template handle: None"
  | .unknownTemplate (some handle) => return "Unknown template handle: " ++ (← handle.text)
  | .foreignLocation handle template => do
    let own ← Value.integerText handle.id
    let owner ← Value.integerText handle.template
    return "Location " ++ own ++ " belongs to template " ++ owner ++ ", not to '" ++ template ++ "'"
  | .unknownLocation handle => return "Unknown location handle: " ++ (← handle.text)
  | .absentLocation => return "No location was given"
  | .incomplete problems => return "Model is not complete: " ++ (← Problem.summary .ok problems)

/-- What a command has come to: the events it reported, its answer unless it failed, and the builder as
it left it. -/
structure Built (α : Type) where
  events : List Event
  answer : Except BuildError α
  builder : Builder

/-- The answer of a command together with the builder afterwards, or the error. -/
def Built.outcome {α : Type} (built : Built α) : Except BuildError (α × Builder) :=
  built.answer.map fun answer => (answer, built.builder)

/-- A command, which changes a builder. -/
def Build (α : Type) : Type := Builder → Built α

namespace Build

/-- Go on with the answer and the builder as it then is, or stop at the error; the events follow each
other. -/
def andThen {α β : Type} (first : Build α) (next : α → Build β) : Build β := fun builder =>
  let done := first builder
  match done.answer with
  | .error error => ⟨done.events, .error error, done.builder⟩
  | .ok answer =>
    let rest := next answer done.builder
    ⟨done.events ++ rest.events, rest.answer, rest.builder⟩

instance : Monad Build where
  pure answer := fun builder => ⟨[], .ok answer, builder⟩
  bind := andThen

instance : MonadStateOf Builder Build where
  get := fun builder => ⟨[], .ok builder, builder⟩
  set next := fun _ => ⟨[], .ok (), next⟩
  modifyGet change := fun builder => ⟨[], .ok (change builder).1, (change builder).2⟩

/-- Report an event. -/
def report (event : Event) : Build Unit :=
  fun builder => ⟨[event], .ok (), builder⟩

/-- Fail. -/
def fail {α : Type} (error : BuildError) : Build α :=
  fun builder => ⟨[], .error error, builder⟩

/-- The text that a location's name starts with when no other is given. -/
def defaultStem : String := "Location"

/-- The name of the location of a number: a stem, an underscore and the number. -/
def locationName (stem : String) (number : Int) : String :=
  (if stem.isEmpty then defaultStem else stem) ++ "_" ++ Text.signedDecimal number

/-! ## Looking handles up -/

/-- The template that a handle names. -/
def resolveTemplate (handle : Option TemplateHandle) : Build Template := do
  let builder ← get
  match handle.bind fun named => builder.network.template? named.id with
  | some template => return template
  | none => fail (.unknownTemplate handle)

/-- The location that a handle names in a template, which must be the template the handle names. -/
def resolveLocation (handle : LocationHandle) (owner : Template) : Build Location :=
  if handle.template = owner.id then
    match owner.location? handle.id with
    | some location => return location
    | none => fail (.unknownLocation handle)
  else fail (.foreignLocation handle owner.name)

/-- The edge that a handle names together with its template. A handle that names none is passed over
with a report. -/
def resolveEdge (handle : Option EdgeHandle) : Build (Option (Template × Edge)) := do
  match handle with
  | none =>
    report .absentEdge
    return none
  | some named =>
    let builder ← get
    let found := do
      let template ← builder.network.template? named.template
      let edge ← template.edge? named.id
      return (template, edge)
    if found.isNone then report (.staleEdge named)
    return found

/-! ## Putting objects back -/

/-- Put a template back under its identifier. -/
def putTemplate (template : Template) : Build Unit :=
  modify fun builder =>
    { builder with network :=
      { builder.network with templates := builder.network.templates.put template } }

/-- Put a location back into its template. -/
def putLocation (owner : Template) (location : Location) : Build Unit :=
  putTemplate { owner with locations := owner.locations.put location }

/-- Put an edge back into its template. -/
def putEdge (owner : Template) (edge : Edge) : Build Unit :=
  putTemplate { owner with edges := owner.edges.put edge }

/-! ## The life of a network -/

/-- Discard the network and start an empty one of a name. -/
def newAutomaton (name : String) : Build Unit := do
  report (.automatonStarted name)
  set ({ network := .named name } : Builder)

/-- Return to the state of a fresh builder. -/
def reset : Build Unit := do
  report .builderReset
  set ({} : Builder)

/-- Check that the network can be rendered, and answer it. -/
def finalize : Build Network := do
  let builder ← get
  let problems := builder.network.problems
  if problems.isEmpty then
    report (.finalized builder.network.name builder.network.templates.size
      builder.network.locationCount)
    return builder.network
  else fail (.incomplete problems)

/-! ## Declarations -/

/-- Add a declaration for the whole network. -/
def addGlobalDeclaration (text : String) : Build Unit :=
  modify fun builder =>
    { builder with network :=
      { builder.network with
        globalDeclarations := builder.network.globalDeclarations ++ [⟨text⟩] } }

/-- Add a line of the system block. -/
def addSystemDeclaration (text : String) : Build Unit :=
  modify fun builder =>
    { builder with network :=
      { builder.network with
        systemDeclarations := builder.network.systemDeclarations ++ [⟨text⟩] } }

/-- Add a declaration of one template. -/
def addLocalDeclaration (handle : Option TemplateHandle) (text : String) : Build Unit := do
  let owner ← resolveTemplate handle
  putTemplate { owner with declarations := owner.declarations ++ [⟨text⟩] }

/-! ## Templates and locations -/

/-- Create a template. -/
def newTemplate (name : String) : Build TemplateHandle := do
  let builder ← get
  let template : Template := { id := builder.nextTemplate, name }
  set { builder with nextTemplate := builder.nextTemplate + 1 }
  putTemplate template
  report (.templateCreated name template.id)
  return ⟨template.id⟩

/-- Create a location of a template, named by a stem and the number of locations so far. -/
def newLocation (stem : String) (handle : Option TemplateHandle) : Build LocationHandle := do
  let owner ← resolveTemplate handle
  let builder ← get
  let number := builder.network.locationCount
  let location : Location := { id := number, owner := owner.id, name := locationName stem number }
  set { builder with network := { builder.network with locationCount := number + 1 } }
  putLocation owner location
  report (.locationCreated location.name owner.name)
  return ⟨number, owner.id⟩

/-- Make a location the initial one of a template. -/
def setInitialLocation (location : Option LocationHandle) (handle : Option TemplateHandle) :
    Build Unit := do
  let owner ← resolveTemplate handle
  match location with
  | none => fail .absentLocation
  | some named =>
    let found ← resolveLocation named owner
    putTemplate { owner with initial := some found.id }

/-- Set the comment of a location. Answers false when no location is given. -/
def setLocationComment (location : Option LocationHandle) (comment : String) : Build Bool := do
  match location with
  | none => return false
  | some named =>
    let owner ← resolveTemplate (some ⟨named.template⟩)
    let found ← resolveLocation named owner
    putLocation owner { found with comment := some comment }
    return true

/-! ## Edges -/

/-- Create an edge of a template, with both ends unset. -/
def newEdge (handle : Option TemplateHandle) : Build EdgeHandle := do
  let owner ← resolveTemplate handle
  let builder ← get
  let edge : Edge := { id := builder.nextEdge, owner := owner.id }
  set { builder with nextEdge := builder.nextEdge + 1 }
  putEdge owner edge
  return ⟨edge.id, owner.id⟩

/-- Set one end of an edge to a location of the edge's own template. Answers false when the edge is not
there or no location is given. -/
def setEdgeEnd (which : EdgeEnd) (edge : Option EdgeHandle) (location : Option LocationHandle) :
    Build Bool := do
  match ← resolveEdge edge, location with
  | some (_, present), some named =>
    let owner ← resolveTemplate (some ⟨present.owner⟩)
    let found ← resolveLocation named owner
    putEdge owner (present.withEnd which found.id)
    return true
  | _, _ => return false

/-- Set the source of an edge. -/
def setEdgeSource : Option EdgeHandle → Option LocationHandle → Build Bool :=
  setEdgeEnd .source

/-- Set the target of an edge. -/
def setEdgeTarget : Option EdgeHandle → Option LocationHandle → Build Bool :=
  setEdgeEnd .target

/-- Replace the guard of an edge. Answers false when the edge is not there. -/
def setEdgeGuard (edge : Option EdgeHandle) (text : String) : Build Bool := do
  match ← resolveEdge edge with
  | some (owner, present) =>
    putEdge owner { present with guard := some ⟨text⟩ }
    return true
  | none => return false

/-- Add an update to an edge, after those it has. Answers false when the edge is not there. -/
def addEdgeUpdate (edge : Option EdgeHandle) (text : String) : Build Bool := do
  match ← resolveEdge edge with
  | some (owner, present) =>
    putEdge owner { present with updates := present.updates ++ [⟨text⟩] }
    return true
  | none => return false

end Build

end TraceAutomata
