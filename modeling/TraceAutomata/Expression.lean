/-!
# Expressions

Guards, updates and declarations are texts that only the model checker interprets. An expression knows
the role it plays, so that a guard cannot stand where an update is expected; its text is kept as given.

Where an expression is read from a document, something else than a text can stand in its place. The type
of what it holds is therefore a parameter, which is the type of texts unless another is named.
-/

namespace TraceAutomata

/-- The role an expression plays in an automaton. -/
inductive Role
  | declaration
  | guard
  | update
  deriving DecidableEq, Repr

/-- The word that names a role in a document. -/
def Role.keyword : Role → String
  | .declaration => "declaration"
  | .guard => "guard"
  | .update => "assignment"

/-- A text in a role. -/
structure Expression (role : Role) (Content : Type := String) where
  text : Content
  deriving DecidableEq, Repr

/-- A declaration of a variable, a clock or a channel. -/
abbrev Declaration (Content : Type := String) := Expression .declaration Content

/-- A condition that must hold for an edge to be taken. -/
abbrev Guard (Content : Type := String) := Expression .guard Content

/-- An assignment executed when an edge is taken. -/
abbrev Update (Content : Type := String) := Expression .update Content

/-- The expression that holds something else in the same role. -/
def Expression.map {role : Role} {Content Other : Type} (change : Content → Other)
    (expression : Expression role Content) : Expression role Other :=
  ⟨change expression.text⟩

end TraceAutomata
