import TraceAutomata.Handle
import TraceAutomata.Text.Quoted

/-!
# The journal

Everything the program reports while it works, as events: records of the log with a level and the part
that reports them, and warnings. `Journaled` is a computation that reports events and then ends with a
result or an error; what was reported before an error stays reported.
-/

namespace TraceAutomata

/-- How important a record is. -/
inductive Level
  | debug
  | info
  | warning
  | error
  | critical
  deriving DecidableEq, Repr

namespace Level

/-- All levels, least important first. -/
def all : List Level := [.debug, .info, .warning, .error, .critical]

/-- The name of a level. -/
def name : Level → String
  | .debug => "DEBUG"
  | .info => "INFO"
  | .warning => "WARNING"
  | .error => "ERROR"
  | .critical => "CRITICAL"

/-- The rank of a level. -/
def rank : Level → Nat
  | .debug => 10
  | .info => 20
  | .warning => 30
  | .error => 40
  | .critical => 50

/-- The level of a name. -/
def ofName? (name : String) : Option Level :=
  all.find? fun level => level.name == name

end Level

/-- Something that happened. -/
inductive Event
  /-- A new network was started. -/
  | automatonStarted (name : String)
  /-- The builder was emptied. -/
  | builderReset
  /-- The network was checked and found complete. -/
  | finalized (name : String) (templates : Nat) (locations : Int)
  /-- A template was created. -/
  | templateCreated (name : String) (id : Int)
  /-- A location was created. -/
  | locationCreated (name template : String)
  /-- A command on no edge was passed over. -/
  | absentEdge
  /-- A command on an edge that is not there was passed over. -/
  | staleEdge (handle : EdgeHandle)
  /-- A trace was turned into a chain of locations. -/
  | traversed (statements : Nat) (locations : Int)
  /-- The updates of an edge have no place in the document. -/
  | updatesDropped (source target template : String) (count : Nat)
  /-- The document was written. -/
  | documentWritten (path : String)
  /-- The document could not be written. -/
  | documentNotWritten (path fault : String)
  /-- The model dump was written. -/
  | dumpWritten (path : String)
  /-- The model dump could not be written. -/
  | dumpNotWritten (path fault : String)
  /-- A transformation started. -/
  | transforming (trace : String)
  /-- A transformation ended with a failure it reports. -/
  | transformationFailed (trace reason : String)
  /-- The directory of the output could not be made. -/
  | directoryNotMade (directory fault : String)
  /-- A transformation ended with a written document. -/
  | transformationFinished (path : String)
  /-- A transformation found its context in use. -/
  | transformationRejected (reason : String)
  /-- A transformation in the background ended with an unforeseen error. -/
  | transformationCrashed (trace : String)
  /-- An expression of a statement was empty and left out. -/
  | expressionSkipped (row : Nat)
  deriving DecidableEq, Repr

/-- A record of the log. -/
structure LogRecord where
  level : Level
  logger : String
  message : String
  deriving DecidableEq, Repr

namespace Event

/-- The record that an event leaves in the log, if it leaves one. A record whose message cannot be written is
dropped. -/
def record? [Runtime] : Event → Option LogRecord
  | .automatonStarted name => builder .debug ("New automaton " ++ Text.quoted name)
  | .builderReset => builder .debug "Resetting build context"
  | .finalized name templates locations =>
    builder .debug ("Finalized " ++ Text.quoted name ++ ": " ++ Text.decimal templates
      ++ " templates, " ++ Text.signedDecimal locations ++ " locations")
  | .templateCreated name id =>
    builder .debug ("New template " ++ Text.quoted name ++ " (id " ++ Text.signedDecimal id ++ ")")
  | .locationCreated name template =>
    builder .debug ("New location " ++ name ++ " in template " ++ Text.quoted template)
  | .absentEdge => builder .debug "Ignoring edge operation on an absent edge"
  | .staleEdge handle =>
    match handle.text with
    | .ok text => builder .debug ("Ignoring edge operation on stale handle " ++ text)
    | .error _ => none
  | .traversed statements locations =>
    some ⟨.info, "trace2nta.traverser", "Traversed " ++ Text.decimal statements
      ++ " statements into " ++ Text.signedDecimal locations ++ " locations"⟩
  | .updatesDropped source target template count =>
    document .warning ("Edge " ++ source ++ " -> " ++ target ++ " in template "
      ++ Text.quoted template ++ " has " ++ Text.decimal count
      ++ " updates; no assignment label emitted")
  | .documentWritten path => document .info ("Wrote UPPAAL model to " ++ path)
  | .documentNotWritten path fault =>
    document .error ("An error has occurred while creating the XML file " ++ path ++ ": " ++ fault)
  | .dumpWritten path => dump .info ("Wrote model dump to " ++ path)
  | .dumpNotWritten path fault =>
    dump .error ("An error has occurred while creating the model file " ++ path ++ ": " ++ fault)
  | .transforming trace => run .info ("Transforming " ++ trace)
  | .transformationFailed trace reason =>
    run .error ("Transformation of " ++ trace ++ " failed: " ++ reason)
  | .directoryNotMade directory fault =>
    run .error ("Cannot create output directory " ++ directory ++ ": " ++ fault)
  | .transformationFinished path => run .info ("Transformation was finished: " ++ path)
  | .transformationRejected reason => run .error reason
  | .transformationCrashed trace =>
    run .error ("Transformation of " ++ trace ++ " failed unexpectedly")
  | .expressionSkipped _ => none
where
  builder (level : Level) (message : String) : Option LogRecord :=
    some ⟨level, "trace2nta.builder", message⟩
  document (level : Level) (message : String) : Option LogRecord :=
    some ⟨level, "trace2nta.backends.uppaal_xml", message⟩
  dump (level : Level) (message : String) : Option LogRecord :=
    some ⟨level, "trace2nta.serialization", message⟩
  run (level : Level) (message : String) : Option LogRecord :=
    some ⟨level, "trace2nta.pipeline", message⟩

/-- The warning that an event gives, if it gives one. -/
def warning? : Event → Option String
  | .expressionSkipped row =>
    some ("Empty expression in statement " ++ Text.decimal row ++ " skipped")
  | _ => none

end Event

/-- The records of some events, in order. -/
def LogRecord.ofEvents [Runtime] (events : List Event) : List LogRecord :=
  events.filterMap Event.record?

/-- Events that were reported, and what came of it in the end. -/
structure Journaled (ε α : Type) where
  events : List Event
  outcome : Except ε α

namespace Journaled

variable {ε α β : Type}

/-- Report one event. -/
def report (event : Event) : Journaled ε Unit :=
  ⟨[event], .ok ()⟩

/-- End with an error. -/
def fail (error : ε) : Journaled ε α :=
  ⟨[], .error error⟩

/-- End with an outcome that is known. -/
def ofExcept (outcome : Except ε α) : Journaled ε α :=
  ⟨[], outcome⟩

/-- Go on with the result, or stop at the error; the events follow each other. -/
def andThen (first : Journaled ε α) (next : α → Journaled ε β) : Journaled ε β :=
  match first.outcome with
  | .error error => ⟨first.events, .error error⟩
  | .ok result =>
    let second := next result
    ⟨first.events ++ second.events, second.outcome⟩

instance : Monad (Journaled ε) where
  pure result := ⟨[], .ok result⟩
  bind := andThen

/-- The same events and result, with errors in another type. -/
def mapError {ε' : Type} (change : ε → ε') (journaled : Journaled ε α) : Journaled ε' α :=
  ⟨journaled.events, journaled.outcome.mapError change⟩

end Journaled

end TraceAutomata
