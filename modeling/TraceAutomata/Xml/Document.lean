import TraceAutomata.Journal
import TraceAutomata.Network
import TraceAutomata.Xml.Line

/-!
# The document of a network

The document that a model checker loads: a header with the global declarations, one block for each
template, and a footer that instantiates every template once and starts the processes. References are
written by the names of locations, never by identifiers.

An edge's update is written only when the edge has exactly one; an edge with several is reported.
-/

namespace TraceAutomata

/-- Why a network is not rendered. -/
inductive RenderError (Content : Type := String)
  | noInitial (template : Content)
  | notConnected (edge : Int) (template : Content)
  | incomplete (problems : List (Problem Content))
  deriving DecidableEq, Repr

namespace RenderError

variable {Content Other : Type}

/-- The error with changed names. -/
def map (change : Content → Other) : RenderError Content → RenderError Other
  | .noInitial template => .noInitial (change template)
  | .notConnected edge template => .notConnected edge (change template)
  | .incomplete problems => .incomplete (problems.map (Problem.map change))

/-- The wording of an error, if the names and the numbers in it can be written. Otherwise what is raised in its
place is the fault of writing them. -/
def wording (written : Content → Except ValueFault String) : RenderError Content → Except ValueFault String
  | .noInitial template => return "Template '" ++ (← written template) ++ "' has no initial location"
  | .notConnected edge template => do
    let number ← Value.integerText edge
    let name ← written template
    return "Edge " ++ number ++ " in template '" ++ name ++ "' is not connected"
  | .incomplete problems => return "Cannot serialize model: " ++ (← Problem.summary written problems)

/-- The wording of an error of texts. -/
def message (error : RenderError) : Except ValueFault String :=
  error.wording .ok

end RenderError

namespace Xml

/-- A computation that renders, reports edges whose updates are lost, and may fail. -/
abbrev Rendering (α : Type) := Journaled RenderError α

/-- The first line of every document. -/
def prolog : String := "<?xml version=\"1.0\" encoding=\"utf-8\"?>"

/-- The line that names the document type. -/
def documentType : String :=
  "<!DOCTYPE nta PUBLIC '-//Uppaal Team//DTD Flat System 1.1//EN' "
    ++ "'http://www.it.uu.se/research/group/darts/uppaal/flat-1_1.dtd'>"

/-- What the name of every process starts with. -/
def processStem : String := "Process"

/-- The lines of a block of declarations; a blank line stands between two declarations. -/
def declarationLines (declarations : List Declaration) : List Line :=
  if declarations.isEmpty then [.whole .declaration none ""]
  else
    [.opening .declaration none,
      .content ("\n\n".intercalate (declarations.map Expression.text)),
      .closing .declaration]

/-- A label that shows a text under a keyword. -/
def labelLine (keyword text : String) : Line :=
  .whole .label (some ⟨.kind, keyword⟩) text

/-- The label of an expression. -/
def expressionLabel {role : Role} (expression : Expression role) : Line :=
  labelLine role.keyword expression.text

/-- The keyword of a location's comment. -/
def commentKeyword : String := "comments"

/-- The lines of a location. -/
def locationLines (location : Location) : List Line :=
  [.opening .location (some ⟨.id, location.name⟩), .whole .name none location.name]
    ++ (location.comment.map (labelLine commentKeyword)).toList
    ++ [.closing .location]

/-- An element that refers to a location by its name. -/
def referenceLine (element : Element) (name : String) : Line :=
  .empty element ⟨.ref, name⟩

/-- The label of an edge's update, if it has exactly one. -/
def updateLabel (edge : Edge) : List Line :=
  match edge.updates with
  | [update] => [expressionLabel update]
  | _ => []

/-- The lines of an edge between two named locations. -/
def transitionLines (edge : Edge) (source target : String) : List Line :=
  [.opening .transition none, referenceLine .source source, referenceLine .target target]
    ++ (edge.guard.map expressionLabel).toList
    ++ updateLabel edge
    ++ [.closing .transition]

/-- The lines of an edge of a template. -/
def edgeLines (template : Template) (edge : Edge) : Rendering (List Line) := do
  match template.locationName? edge.source, template.locationName? edge.target with
  | some source, some target =>
    if 1 < edge.updates.length then
      Journaled.report (.updatesDropped source target template.name edge.updates.length)
    return transitionLines edge source target
  | _, _ => Journaled.fail (.notConnected edge.id template.name)

/-- The lines of edges, one after another. -/
def edgesLines (template : Template) : List Edge → Rendering (List Line)
  | [] => return []
  | edge :: rest => do
    let lines ← edgeLines template edge
    return lines ++ (← edgesLines template rest)

/-- The lines of a template. -/
def templateLines (template : Template) : Rendering (List Line) := do
  match template.locationName? template.initial with
  | none => Journaled.fail (.noInitial template.name)
  | some initial =>
    let transitions ← edgesLines template template.edges.members
    return [.opening .template none, .whole .name none template.name]
      ++ declarationLines template.declarations
      ++ template.locations.members.flatMap locationLines
      ++ [referenceLine .initial initial]
      ++ transitions
      ++ [.closing .template]

/-- The lines of templates, one after another. -/
def templatesLines : List Template → Rendering (List Line)
  | [] => return []
  | template :: rest => do
    let lines ← templateLines template
    return lines ++ (← templatesLines rest)

/-- The lines up to the global declarations. -/
def headerLines (network : Network) : List Line :=
  [.verbatim prolog, .verbatim documentType, .opening .network none]
    ++ declarationLines network.globalDeclarations

/-- The name of the process of a number. -/
def processName (number : Nat) : String :=
  processStem ++ Text.decimal number

/-- The processes, numbered from one in the order of the templates, with their templates' names. -/
def processes (network : Network) : List (String × String) :=
  network.templates.members.zipIdx.map fun numbered =>
    (processName (numbered.2 + 1), numbered.1.name)

/-- The text that instantiates a template. -/
def processText (process : String × String) : String :=
  process.1 ++ " =  " ++ process.2 ++ "();"

/-- The lines of the system block, and the end of the document. -/
def footerLines (network : Network) : List Line :=
  let started := processes network
  [.opening .system none]
    ++ network.systemDeclarations.map (fun declaration => .content declaration.text)
    ++ started.map (fun process => .content (processText process))
    ++ [.content "system ", .content (", ".intercalate (started.map Prod.fst) ++ ";"),
      .closing .system, .closing .network]

/-- The lines of the whole document of a network, unless something keeps it from being rendered. -/
def documentLines (network : Network) : Rendering (List Line) := do
  let problems := network.problems
  if problems.isEmpty then
    let templates ← templatesLines network.templates.members
    return headerLines network ++ templates ++ footerLines network
  else Journaled.fail (.incomplete problems)

/-! ## Texts -/

/-- The text of lines that may not be rendered. -/
def written (lines : Rendering (List Line)) : Rendering String := do
  return textOfLines (← lines)

/-- The document up to the global declarations. -/
def header (network : Network) : String :=
  textOfLines (headerLines network)

/-- The block of a template. -/
def renderTemplate (template : Template) : Rendering String :=
  written (templateLines template)

/-- The blocks of all templates. -/
def renderTemplates (network : Network) : Rendering String :=
  written (templatesLines network.templates.members)

/-- The system block and the end of the document. -/
def footer (network : Network) : String :=
  textOfLines (footerLines network)

/-- The whole document of a network. -/
def render (network : Network) : Rendering String :=
  written (documentLines network)

end Xml

end TraceAutomata
