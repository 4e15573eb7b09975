import TraceAutomata.Document.ValueFault

/-!
# Handles

A handle names an object of the network under construction by identifiers. The numbers are taken as they
are: a handle may be stale, made up, or name an object of another template.
-/

namespace TraceAutomata

/-- Names a template. -/
structure TemplateHandle where
  id : Int
  deriving DecidableEq, Repr

/-- Names a location and the template it should be in. -/
structure LocationHandle where
  id : Int
  template : Int
  deriving DecidableEq, Repr

/-- Names an edge and the template it should be in. -/
structure EdgeHandle where
  id : Int
  template : Int
  deriving DecidableEq, Repr

/-- A template handle inside a message. -/
def TemplateHandle.text (handle : TemplateHandle) : Except ValueFault String := do
  return "TemplateHandle(id=" ++ (← Value.integerText handle.id) ++ ")"

/-- A handle with two identifiers inside a message. -/
def ownedHandleText (kind : String) (id template : Int) : Except ValueFault String := do
  let own ← Value.integerText id
  let owner ← Value.integerText template
  return kind ++ "(id=" ++ own ++ ", template_id=" ++ owner ++ ")"

/-- A location handle inside a message. -/
def LocationHandle.text (handle : LocationHandle) : Except ValueFault String :=
  ownedHandleText "LocationHandle" handle.id handle.template

/-- An edge handle inside a message. -/
def EdgeHandle.text (handle : EdgeHandle) : Except ValueFault String :=
  ownedHandleText "EdgeHandle" handle.id handle.template

end TraceAutomata
