/-!
# Statement traces

A trace is a sequence of classified statements. A statement declares, assigns or tests; its expressions
are texts that nothing here interprets.
-/

namespace TraceAutomata

/-- What a statement contributes to the automaton. -/
inductive StatementKind
  | declaration
  | assignment
  | test
  deriving DecidableEq, Repr

/-- Where a declaration goes. -/
inductive DeclarationScope
  | localScope
  | globalScope
  | systemScope
  deriving DecidableEq, Repr

/-- The kinds with their keywords. -/
def StatementKind.keywords : List (String × StatementKind) :=
  [("declaration", .declaration), ("assignment", .assignment), ("test", .test)]

/-- The keyword of a kind. -/
def StatementKind.keyword : StatementKind → String
  | .declaration => "declaration"
  | .assignment => "assignment"
  | .test => "test"

/-- The scopes with their keywords. -/
def DeclarationScope.keywords : List (String × DeclarationScope) :=
  [("local", .localScope), ("global", .globalScope), ("system", .systemScope)]

/-- The keyword of a scope. -/
def DeclarationScope.keyword : DeclarationScope → String
  | .localScope => "local"
  | .globalScope => "global"
  | .systemScope => "system"

/-- One classified statement. The comment is for the location that the statement creates, and the scope
matters for declarations only. -/
structure Statement where
  kind : StatementKind
  expressions : List String := []
  comment : Option String := none
  scope : DeclarationScope := .localScope
  deriving DecidableEq, Repr

/-- A named sequence of statements. -/
structure Trace where
  name : String
  statements : List Statement := []
  deriving DecidableEq, Repr

end TraceAutomata
