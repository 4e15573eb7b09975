import TraceAutomata.Command

/-!
# Contexts

A context is a builder that at most one run at a time may use. A run claims the context before its work
and releases it afterwards, however the work ended; a claimed context refuses another claim and stays as
it is.
-/

namespace TraceAutomata

/-- A builder, and whether a run has claimed it. -/
structure Context where
  builder : Builder := {}
  claimed : Bool := false
  deriving DecidableEq

/-- A claim was refused because another run holds the context. -/
structure ContextInUse where
  deriving DecidableEq, Repr

/-- The wording of a refused claim. -/
def ContextInUse.message (_ : ContextInUse) : String :=
  "Build context is already in use by another run"

namespace Context

/-- The network under construction. -/
def network (context : Context) : Network :=
  context.builder.network

/-- Claim the context. -/
def claim (context : Context) : Except ContextInUse Context :=
  if context.claimed then .error {} else .ok { context with claimed := true }

/-- Release the context. -/
def release (context : Context) : Context :=
  { context with claimed := false }

/-- Work on the builder of a context while it is claimed. -/
def running {α : Type} (context : Context) (work : Builder → Builder × α) :
    Context × Except ContextInUse α :=
  match context.claim with
  | .error refusal => (context, .error refusal)
  | .ok held =>
    let (builder, result) := work held.builder
    ({ held with builder }.release, .ok result)

end Context

end TraceAutomata
