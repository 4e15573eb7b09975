import TraceAutomata.Builder

/-!
# Commands as data

The commands of a builder as values, with one interpreter. A run of commands goes on after a command that
fails, with the builder as the failed one left it.
-/

namespace TraceAutomata

/-- A command together with its arguments. -/
inductive Command
  | newAutomaton (name : String)
  | reset
  | finalize
  | addGlobalDeclaration (text : String)
  | addSystemDeclaration (text : String)
  | addLocalDeclaration (template : Option TemplateHandle) (text : String)
  | newTemplate (name : String)
  | newLocation (stem : String) (template : Option TemplateHandle)
  | setInitialLocation (location : Option LocationHandle) (template : Option TemplateHandle)
  | setLocationComment (location : Option LocationHandle) (comment : String)
  | newEdge (template : Option TemplateHandle)
  | setEdgeEnd (which : EdgeEnd) (edge : Option EdgeHandle) (location : Option LocationHandle)
  | setEdgeGuard (edge : Option EdgeHandle) (text : String)
  | addEdgeUpdate (edge : Option EdgeHandle) (text : String)
  deriving DecidableEq, Repr

/-- What a command answers. -/
inductive Answer
  | done
  | applied (whether : Bool)
  | template (handle : TemplateHandle)
  | location (handle : LocationHandle)
  | edge (handle : EdgeHandle)
  deriving DecidableEq, Repr

namespace Command

/-- What a command does to a builder. -/
def perform : Command → Build Answer
  | .newAutomaton name => do Build.newAutomaton name; return .done
  | .reset => do Build.reset; return .done
  | .finalize => do let _ ← Build.finalize; return .done
  | .addGlobalDeclaration text => do Build.addGlobalDeclaration text; return .done
  | .addSystemDeclaration text => do Build.addSystemDeclaration text; return .done
  | .addLocalDeclaration template text => do Build.addLocalDeclaration template text; return .done
  | .newTemplate name => return .template (← Build.newTemplate name)
  | .newLocation stem template => return .location (← Build.newLocation stem template)
  | .setInitialLocation location template => do
    Build.setInitialLocation location template
    return .done
  | .setLocationComment location comment =>
    return .applied (← Build.setLocationComment location comment)
  | .newEdge template => return .edge (← Build.newEdge template)
  | .setEdgeEnd which edge location => return .applied (← Build.setEdgeEnd which edge location)
  | .setEdgeGuard edge text => return .applied (← Build.setEdgeGuard edge text)
  | .addEdgeUpdate edge text => return .applied (← Build.addEdgeUpdate edge text)

/-- A command carried out on a builder: its answer or error, the events it reports, and the builder
afterwards. -/
structure Performed where
  answer : Except BuildError Answer
  events : List Event
  builder : Builder

/-- Carry out a command. -/
def step (command : Command) (builder : Builder) : Performed :=
  let built := command.perform builder
  ⟨built.answer, built.events, built.builder⟩

/-- The builder after some commands, failed ones included. -/
def runAll (builder : Builder) (commands : List Command) : Builder :=
  commands.foldl (fun current command => (command.step current).builder) builder

end Command

end TraceAutomata
