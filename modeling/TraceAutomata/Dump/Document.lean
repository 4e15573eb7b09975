import TraceAutomata.Dump
import TraceAutomata.Xml.Document

/-!
# The document of a dump

A dump has a document when everything that the document shows is a text; other values may stand where nothing
shows them, such as the updates of an edge with several. `Dump.render` goes through the dump in the order of
the document, so of two faults the one that stands first is reported, and then renders the network that the
dump shows.
-/

namespace TraceAutomata

/-- Why a dump is not rendered. -/
inductive DumpRenderError
  /-- The network is not rendered. -/
  | network (error : RenderError Value)
  /-- A value is shown that is no text. -/
  | notText
  /-- Bytes, a date or a time is shown, in which parts can be replaced but no characters. -/
  | notCharacters
  deriving Repr

namespace Dump

variable [Runtime]

/-- A look at what a document shows, before it is rendered. -/
abbrev Inspection := Journaled DumpRenderError Unit

/-- The wordings of the problems of a dump, in which names are shown. -/
def validate (dump : Dump) : Except ValueFault (List String) :=
  dump.problems.mapM (Problem.wording Value.plainText)

/-- What is shown must be a text. -/
def inspectText (value : Value) : Inspection :=
  match value.content with
  | .text _ => return ()
  | .bytes _ => Journaled.fail .notCharacters
  | .date _ => Journaled.fail .notCharacters
  | .dateTime _ => Journaled.fail .notCharacters
  | _ => Journaled.fail .notText

/-- The content of every expression is shown. -/
def inspectExpressions {role : Role} (expressions : List (Expression role Value)) : Inspection :=
  expressions.forM fun expression => inspectText expression.text

/-- A location shows its name and its comment. -/
def inspectLocation (location : Location Value) : Inspection := do
  inspectText location.name
  location.comment.forM inspectText

/-- The name of the location that a reference names, unless it is null. -/
def referredName? (template : Template Value) (reference : Option Int) : Option Value :=
  unlessNull (template.locationName? reference)

/-- An edge shows its guard, and its update if it has exactly one. -/
def inspectEdge (template : Template Value) (edge : Edge Value) : Inspection := do
  match referredName? template edge.source, referredName? template edge.target with
  | some source, some target =>
    inspectText source
    inspectText target
    inspectExpressions edge.guard.toList
    if 1 < edge.updates.length then
      Journaled.report (.updatesDropped source.plain target.plain template.name.plain
        edge.updates.length)
    else inspectExpressions edge.updates
  | _, _ => Journaled.fail (.network (.notConnected edge.id template.name))

/-- A template shows its name, its declarations, its locations and its edges. -/
def inspectTemplate (template : Template Value) : Inspection := do
  match referredName? template template.initial with
  | none => Journaled.fail (.network (.noInitial template.name))
  | some _ =>
    inspectText template.name
    inspectExpressions template.declarations
    template.locations.members.forM inspectLocation
    template.edges.members.forM (inspectEdge template)

/-- The end of a document shows the system declarations and the names of the templates. -/
def inspectFooter (dump : Dump) : Inspection := do
  inspectExpressions dump.systemDeclarations
  dump.templates.members.forM fun template => inspectText template.name

/-- A document shows no network with problems, and its parts in order. -/
def inspectDocument (dump : Dump) : Inspection := do
  let problems := dump.problems
  if problems.isEmpty then
    inspectExpressions dump.globalDeclarations
    dump.templates.members.forM inspectTemplate
    inspectFooter dump
  else Journaled.fail (.network (.incomplete problems))

/-- Render what passes an inspection. -/
def inspected (inspection : Inspection) (rendering : Xml.Rendering String) :
    Journaled DumpRenderError String :=
  match inspection.outcome with
  | .error error => ⟨inspection.events, .error error⟩
  | .ok () => rendering.mapError fun error => .network (error.map .text)

/-- The document up to the global declarations. -/
def header (dump : Dump) : Journaled DumpRenderError String :=
  inspected (inspectExpressions dump.globalDeclarations) (return Xml.header dump.shown)

/-- The block of a template. -/
def renderTemplate (template : Template Value) : Journaled DumpRenderError String :=
  inspected (inspectTemplate template) (Xml.renderTemplate (template.map Value.plain))

/-- The blocks of all templates. -/
def renderTemplates (dump : Dump) : Journaled DumpRenderError String :=
  inspected (dump.templates.members.forM inspectTemplate) (Xml.renderTemplates dump.shown)

/-- The system block and the end of the document. -/
def footer (dump : Dump) : Journaled DumpRenderError String :=
  inspected (inspectFooter dump) (return Xml.footer dump.shown)

/-- The whole document of a dump. -/
def render (dump : Dump) : Journaled DumpRenderError String :=
  inspected (inspectDocument dump) (Xml.render dump.shown)

end Dump

end TraceAutomata
