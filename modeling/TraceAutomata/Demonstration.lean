import TraceAutomata.Output
import TraceAutomata.Traversal
import TraceAutomata.Text.Lines

/-!
# A demonstration

A small counter as a trace, its network, and both files, with a report of everything that was written.
-/

namespace TraceAutomata.Demonstration

/-- The trace of a counter. -/
def counter : Trace :=
  { name := "Counter"
    statements := [
      { kind := .declaration, expressions := ["int x = 0;"], scope := .globalScope },
      { kind := .declaration, expressions := ["clock c;"] },
      { kind := .test, expressions := ["x < 5"] },
      { kind := .assignment, expressions := ["x := x + 1"], comment := some "increment" },
      { kind := .assignment, expressions := ["x := x * 2", "c := 0"],
        comment := some "double and reset" },
      { kind := .test, expressions := ["x > 4"] }] }

/-- A line across the page. -/
def rule : String :=
  String.ofList (List.replicate 80 '=')

/-- A path that may not have been written. -/
def shownPath (path : Option String) : String :=
  path.getD "None"

/-- Why a demonstration fails. -/
inductive Fault
  | build (error : BuildError)
  | save (fault : SaveFault)
  deriving DecidableEq, Repr

/-- A demonstration that has ended: the files, all events, and the report. -/
structure Shown where
  files : FileSystem
  events : List Event
  report : Except Fault String

/-- The report on a network, its document and the two paths written. -/
def report (document : String) (saved dumped : Option String) : String :=
  Text.ofLines [rule, "UPPAAL EXPORT DEMO", rule, document, "Saved to: " ++ shownPath saved,
    "Model dump: " ++ shownPath dumped, "", rule, "To check the model:", "  verifyta counter.xml", rule]

/-- Build, render and save the counter. -/
def run [Runtime] (files : FileSystem) : Shown :=
  let built := Traversal.build {} counter.name counter.statements {}
  match built.outcome with
  | .error error => ⟨files, built.events, .error (.build error)⟩
  | .ok (network, _) =>
    let rendered := Xml.render network
    match rendered.outcome with
    | .error error => ⟨files, built.events ++ rendered.events, .error (.save (.render error))⟩
    | .ok document =>
      let saved := saveDocument network "counter" files
      let dumped := saveDump network.dump (shownPath (saved.outcome.toOption.join)) saved.files
      let report : Except Fault String := do
        let savedPath ← saved.outcome.mapError .save
        let dumpedPath ← dumped.outcome.mapError .save
        return report document savedPath dumpedPath
      ⟨dumped.files, built.events ++ rendered.events ++ saved.events ++ dumped.events, report⟩

end TraceAutomata.Demonstration
