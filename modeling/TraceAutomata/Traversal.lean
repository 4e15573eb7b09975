import TraceAutomata.Builder
import TraceAutomata.Config
import TraceAutomata.Trace.Statement

/-!
# From traces to automata

The network of a trace has one template, a chain of locations that follows the trace: every assigned
expression leads over an edge of its own to a new location. Tests are collected and guard the next edge
together; tests after the last assignment guard a last edge without an update. Declarations go where
their scope says and do not interrupt the chain.
-/

namespace TraceAutomata

namespace Traversal

/-- The guard of some tests: a single one as it is, several each in parentheses and all required. -/
def conjunction : List String → String
  | [single] => single
  | tests => " && ".intercalate (tests.map fun test => "(" ++ test ++ ")")

/-- The guard of the tests that wait for an edge, if there are any. -/
def pendingGuard (tests : List String) : Option String :=
  if tests.isEmpty then none else some (conjunction tests)

/-- Where a chain has got to: its last location, and the tests that wait for the next edge. -/
structure Progress where
  location : LocationHandle
  tests : List String := []
  deriving DecidableEq, Repr

/-- What a new link of a chain carries. -/
structure Link where
  guard : Option String := none
  update : Option String := none
  comment : Option String := none
  deriving DecidableEq, Repr

/-- The comment of a link, if it is a text that is not empty. -/
def Link.shownComment? (link : Link) : Option String :=
  link.comment.filter fun comment => !comment.isEmpty

/-- Add one location and the edge that leads to it, and answer the location. -/
def extend (config : Config) (template : TemplateHandle) (source : LocationHandle) (link : Link) :
    Build LocationHandle := do
  let target ← Build.newLocation config.locationStem (some template)
  let edge ← Build.newEdge (some template)
  let _ ← Build.setEdgeSource (some edge) (some source)
  let _ ← Build.setEdgeTarget (some edge) (some target)
  if let some guard := link.guard then
    let _ ← Build.setEdgeGuard (some edge) guard
  if let some update := link.update then
    let _ ← Build.addEdgeUpdate (some edge) update
  if let some comment := link.shownComment? then
    let _ ← Build.setLocationComment (some target) comment
  return target

/-- Add one declaration where its scope says. -/
def declare (template : TemplateHandle) (scope : DeclarationScope) (expression : String) : Build Unit :=
  match scope with
  | .globalScope => Build.addGlobalDeclaration expression
  | .systemScope => Build.addSystemDeclaration expression
  | .localScope => Build.addLocalDeclaration (some template) expression

/-- Add some declarations in order. -/
def declareAll (template : TemplateHandle) (scope : DeclarationScope) : List String → Build Unit
  | [] => return ()
  | expression :: rest => do
    declare template scope expression
    declareAll template scope rest

/-- Add a link for every assigned expression. The first takes the tests that wait and the comment. -/
def assignAll (config : Config) (template : TemplateHandle) (comment : Option String)
    (progress : Progress) : List String → Build Progress
  | [] => return progress
  | update :: rest => do
    let location ← extend config template progress.location
      { guard := pendingGuard progress.tests, update := some update, comment }
    assignAll config template none { location } rest

/-- Follow one statement. -/
def followStatement (config : Config) (template : TemplateHandle) (progress : Progress)
    (statement : Statement) : Build Progress := do
  match statement.kind with
  | .declaration =>
    declareAll template statement.scope statement.expressions
    return progress
  | .test => return { progress with tests := progress.tests ++ statement.expressions }
  | .assignment => assignAll config template statement.comment progress statement.expressions

/-- Follow statements one after another. -/
def followAll (config : Config) (template : TemplateHandle) (progress : Progress) :
    List Statement → Build Progress
  | [] => return progress
  | statement :: rest => do
    let next ← followStatement config template progress statement
    followAll config template next rest

/-- Give the tests that still wait an edge to guard. -/
def close (config : Config) (template : TemplateHandle) (progress : Progress) : Build Unit := do
  if let some guard := pendingGuard progress.tests then
    let _ ← extend config template progress.location { guard := some guard }

/-- The name of the template: the one in the settings unless it is empty, else the network's. -/
def templateName (config : Config) (name : String) : String :=
  match config.templateName with
  | some given => if given.isEmpty then name else given
  | none => name

/-- Build the network of some statements from nothing, and check it. -/
def build (config : Config) (name : String) (statements : List Statement) : Build Network := do
  Build.newAutomaton name
  let template ← Build.newTemplate (templateName config name)
  let initial ← Build.newLocation config.initialStem (some template)
  Build.setInitialLocation (some initial) (some template)
  let progress ← followAll config template { location := initial } statements
  close config template progress
  let builder ← get
  Build.report (.traversed statements.length builder.network.locationCount)
  Build.finalize

end Traversal

end TraceAutomata
