import TraceAutomata.Dump.Document
import TraceAutomata.Proofs.Document.Within
import TraceAutomata.Proofs.Dump.Reading
import TraceAutomata.Proofs.Xml.Validation
import TraceAutomata.Runtime.Standard

/-!
# Rendering dumps of texts

A dump whose names, comments and expressions are texts passes the inspection of what is shown wherever it has no
problems. So it is rendered, as a whole and template by template, exactly when the network that it shows is
(`Dump.renderTemplate_succeeds_iff`, `Dump.render_succeeds_iff`).

`rendered_iff_no_problems` says for networks and for such dumps that validation and rendering agree, also where a
number is too long to be listed.
-/

namespace TraceAutomata

open Journaled

/-! ## Texts -/

/-- The value is a text. -/
def Value.IsText (value : Value) : Prop :=
  ∃ own, value.content = .text own

/-- Every name, comment and expression that a document can show is a text. The name of the network and its count
of locations are not shown. -/
structure Dump.Textual (dump : Dump) : Prop where
  globalDeclarations : ∀ declaration ∈ dump.globalDeclarations, declaration.text.IsText
  systemDeclarations : ∀ declaration ∈ dump.systemDeclarations, declaration.text.IsText
  templates : ∀ template ∈ dump.templates.members, template.All Value.IsText

/-- A text is not null. -/
theorem Value.IsText.unlessNull {value : Value} (isText : value.IsText) :
    Dump.unlessNull (some value) = some value := by
  obtain ⟨own, same⟩ := isText
  cases value with
  | null => cases same
  | _ => rfl

namespace Dump

variable {dump : Dump} {template : Template Value}

/-! ## Inspections of texts -/

theorem inspectText_succeeds {value : Value} (isText : value.IsText) : (inspectText value).Succeeds := by
  obtain ⟨own, same⟩ := isText
  rw [inspectText, same]
  exact succeeds_pure ()

/-- An inspection of several objects succeeds when it succeeds on each of them. -/
theorem forM_succeeds {α : Type} {inspect : α → Inspection} {objects : List α}
    (each : ∀ object ∈ objects, (inspect object).Succeeds) : (objects.forM inspect).Succeeds := by
  induction objects with
  | nil => exact succeeds_pure ()
  | cons object rest inductionHypothesis =>
    obtain ⟨here, others⟩ := List.forall_mem_cons.mp each
    exact succeeds_bind_const_iff.mpr ⟨here, inductionHypothesis others⟩

theorem inspectExpressions_succeeds {role : Role} {expressions : List (Expression role Value)}
    (texts : ∀ expression ∈ expressions, expression.text.IsText) :
    (inspectExpressions expressions).Succeeds :=
  forM_succeeds fun expression present => inspectText_succeeds (texts expression present)

theorem inspectLocation_succeeds {location : Location Value} (texts : location.All Value.IsText) :
    (inspectLocation location).Succeeds := by
  refine succeeds_bind_const_iff.mpr ⟨inspectText_succeeds texts.name, ?_⟩
  cases set : location.comment with
  | none => exact succeeds_pure ()
  | some comment => exact inspectText_succeeds (texts.comment comment set)

/-- A reference that names a location of a template of texts names it by a text. -/
theorem referredName?_of_named (texts : template.All Value.IsText) {reference : Option Int}
    (named : ∃ name, template.locationName? reference = some name) :
    ∃ name, referredName? template reference = some name ∧ name.IsText := by
  obtain ⟨name, found⟩ := named
  obtain ⟨location, referred, rfl⟩ := Option.map_eq_some_iff.mp found
  obtain ⟨wanted, _, here⟩ := Option.bind_eq_some_iff.mp referred
  have isText := (texts.locations location (Registry.mem_of_find? here)).name
  refine ⟨location.name, ?_, isText⟩
  rw [referredName?, found]
  exact isText.unlessNull

theorem inspectEdge_succeeds [Runtime] {edge : Edge Value} (texts : template.All Value.IsText)
    (edgeTexts : edge.All Value.IsText) (complete : template.edgeProblems edge = []) :
    (inspectEdge template edge).Succeeds := by
  obtain ⟨sourceComplete, targetComplete⟩ := List.append_eq_nil_iff.mp complete
  obtain ⟨source, sourceReferred, sourceText⟩ :=
    referredName?_of_named texts (Xml.endProblems_eq_nil_iff.mp sourceComplete)
  obtain ⟨target, targetReferred, targetText⟩ :=
    referredName?_of_named texts (Xml.endProblems_eq_nil_iff.mp targetComplete)
  change referredName? template edge.source = _ at sourceReferred
  change referredName? template edge.target = _ at targetReferred
  have guardTexts : ∀ condition ∈ edge.guard.toList, condition.text.IsText := fun condition set =>
    edgeTexts.guard condition (Option.mem_toList.mp set)
  rw [inspectEdge, sourceReferred, targetReferred]
  refine succeeds_bind_const_iff.mpr ⟨inspectText_succeeds sourceText, ?_⟩
  refine succeeds_bind_const_iff.mpr ⟨inspectText_succeeds targetText, ?_⟩
  refine succeeds_bind_const_iff.mpr ⟨inspectExpressions_succeeds guardTexts, ?_⟩
  split
  · exact succeeds_report _
  · exact inspectExpressions_succeeds edgeTexts.updates

/-- The edges of a template without problems have none. -/
theorem edgeProblems_of_complete (complete : template.problems = []) {edge : Edge Value}
    (hosted : edge ∈ template.edges.members) : template.edgeProblems edge = [] :=
  List.flatMap_eq_nil_iff.mp (List.append_eq_nil_iff.mp complete).2 edge hosted

theorem inspectTemplate_succeeds [Runtime] (texts : template.All Value.IsText)
    (complete : template.problems = []) : (inspectTemplate template).Succeeds := by
  have named := Xml.initialProblems_eq_nil_iff.mp (List.append_eq_nil_iff.mp complete).1
  obtain ⟨initial, referred, _⟩ := referredName?_of_named texts named
  rw [inspectTemplate, referred]
  refine succeeds_bind_const_iff.mpr ⟨inspectText_succeeds texts.name, ?_⟩
  refine succeeds_bind_const_iff.mpr ⟨inspectExpressions_succeeds texts.declarations, ?_⟩
  refine succeeds_bind_const_iff.mpr ⟨?_, ?_⟩
  · exact forM_succeeds fun location present => inspectLocation_succeeds (texts.locations location present)
  · exact forM_succeeds fun edge present =>
      inspectEdge_succeeds texts (texts.edges edge present) (edgeProblems_of_complete complete present)

/-- The templates of a dump without problems have none. -/
theorem problems_of_complete (complete : dump.problems = []) (present : template ∈ dump.templates.members) :
    template.problems = [] :=
  List.flatMap_eq_nil_iff.mp complete template present

theorem inspectDocument_succeeds [Runtime] (textual : dump.Textual) (complete : dump.problems = []) :
    dump.inspectDocument.Succeeds := by
  rw [inspectDocument, complete]
  refine succeeds_bind_const_iff.mpr ⟨inspectExpressions_succeeds textual.globalDeclarations, ?_⟩
  refine succeeds_bind_const_iff.mpr ⟨forM_succeeds fun template present => ?_, ?_⟩
  · exact inspectTemplate_succeeds (textual.templates template present)
      (problems_of_complete complete present)
  · refine succeeds_bind_const_iff.mpr ⟨inspectExpressions_succeeds textual.systemDeclarations, ?_⟩
    exact forM_succeeds fun template present =>
      inspectText_succeeds (textual.templates template present).name

/-! ## Rendering -/

theorem inspected_succeeds_iff {inspection : Inspection} {rendering : Xml.Rendering String} :
    (inspected inspection rendering).Succeeds ↔ inspection.Succeeds ∧ rendering.Succeeds := by
  have refused {events : List Event} {error : DumpRenderError} :
      ¬(⟨events, .error error⟩ : Journaled DumpRenderError String).Succeeds := by
    rintro ⟨_, failed⟩
    cases failed
  unfold inspected
  cases outcome : inspection.outcome with
  | error error =>
    have unfit : ¬inspection.Succeeds := by
      rintro ⟨_, passed⟩
      rw [outcome] at passed
      cases passed
    simp only [refused, unfit, false_and]
  | ok passed =>
    have fit : inspection.Succeeds := ⟨passed, outcome⟩
    simp only [succeeds_mapError_iff, fit, true_and]

/-- A template whose texts are texts is rendered exactly when it has no problems. -/
theorem renderTemplate_succeeds_iff [Runtime] (texts : template.All Value.IsText) :
    (renderTemplate template).Succeeds ↔ template.problems = [] := by
  rw [renderTemplate, inspected_succeeds_iff, Xml.renderTemplate_succeeds_iff, Template.problems_map,
    List.map_eq_nil_iff]
  exact and_iff_right_of_imp (inspectTemplate_succeeds texts)

/-- A dump whose texts are texts is rendered exactly when it has no problems. -/
theorem render_succeeds_iff [Runtime] (textual : dump.Textual) : dump.render.Succeeds ↔ dump.problems = [] := by
  rw [render, inspected_succeeds_iff, Xml.render_succeeds_iff, shown, Network.problems_map,
    List.map_eq_nil_iff]
  exact and_iff_right_of_imp (inspectDocument_succeeds textual)

/-- A dump with problems is refused with all of them, and nothing is reported of it. -/
theorem render_of_problems [Runtime] (incomplete : dump.problems ≠ []) :
    dump.render = Journaled.fail (.network (.incomplete dump.problems)) := by
  rw [render, inspected, inspectDocument]
  simp [incomplete, Journaled.fail]

/-- The problems of a dump of texts have texts as names. -/
theorem isText_of_problems (textual : dump.Textual) {problem : Problem Value} (among : problem ∈ dump.problems) :
    problem.name.IsText := by
  obtain ⟨template, present, found⟩ := List.mem_flatMap.mp among
  have same := Template.name_of_problems found
  exact same ▸ (textual.templates template present).name

end Dump

/-! ## Validation decides rendering -/

/-- The problems of a network, each with the name of its template in words or not, decide what is rendered. There are
as many as references are broken, and validation lists them all, unless a number in them is too long to be written.
Where there are none every edge, every template and the document is written. Otherwise some template is not, and the
document is refused by an error that lists what validation does, or that gives way to the fault that keeps it from
being listed. -/
structure ProblemsDecide {Content ε α : Type} (problems : List (Problem Content))
    (written : Content → Except ValueFault String) (validated : Except ValueFault (List String)) (broken : Nat)
    (lines : List (Journaled ε α)) (blocks : List (Journaled ε String)) (rendered : Journaled ε String)
    (refusal : RenderError Content → ε) : Prop where
  found : problems.length = broken
  counted : ∀ texts, validated = .ok texts → texts.length = broken
  listed : Spelled (problems.flatMap Problem.numbers) validated
  edges : validated = .ok [] → ∀ edge ∈ lines, edge.Succeeds
  templates : validated = .ok [] ↔ ∀ block ∈ blocks, block.Succeeds
  document : validated = .ok [] ↔ rendered.Succeeds
  refused : validated ≠ .ok [] → rendered = Journaled.fail (refusal (.incomplete problems))
  worded : (RenderError.incomplete problems).wording written =
    validated.map fun texts => "Cannot serialize model: " ++ "; ".intercalate texts

section Listing

variable {Content : Type} {problems : List (Problem Content)} {written : Content → Except ValueFault String}

/-- As many problems are listed as there are. -/
theorem length_of_listed {texts : List String} (listed : problems.mapM (Problem.wording written) = .ok texts) :
    texts.length = problems.length := by
  induction problems generalizing texts with
  | nil => cases listed; rfl
  | cons problem rest inductionHypothesis =>
    rw [List.mapM_cons] at listed
    cases here : problem.wording written with
    | error fault =>
      rw [here] at listed
      cases listed
    | ok text =>
      cases others : rest.mapM (Problem.wording written) with
      | error fault =>
        rw [here, others] at listed
        cases listed
      | ok following =>
        rw [here, others] at listed
        cases listed
        simp [inductionHypothesis others]

/-- Nothing is listed exactly when there are no problems. -/
theorem listed_nil_iff : problems.mapM (Problem.wording written) = .ok [] ↔ problems = [] := by
  constructor
  · intro listed
    exact List.eq_nil_of_length_eq_zero (length_of_listed listed).symm
  · rintro rfl
    rfl

/-- The error that lists problems has their list, or the fault of listing them. -/
theorem wording_incomplete : (RenderError.incomplete problems).wording written =
    (problems.mapM (Problem.wording written)).map fun texts =>
      "Cannot serialize model: " ++ "; ".intercalate texts := by
  rw [RenderError.wording, Problem.summary]
  cases problems.mapM (Problem.wording written) <;> rfl

end Listing

/-- The problems of a network decide what is rendered of it. -/
theorem problemsDecide_network (network : Network) :
    ProblemsDecide network.problems .ok network.validate (network.brokenInitials + network.brokenEnds)
      (network.templates.members.flatMap fun template =>
        template.edges.members.map (Xml.edgeLines template))
      (network.templates.members.map Xml.renderTemplate) (Xml.render network) id := by
  have complete_iff : network.validate = .ok [] ↔ network.problems = [] := listed_nil_iff
  constructor
  case found => exact network.length_problems
  case counted =>
    intro texts listed
    rw [length_of_listed listed, network.length_problems]
  case listed => exact Spelled.mapM fun problem _ => Problem.spelled_wording (.ok problem.name)
  case edges =>
    intro validated lines present
    obtain ⟨template, among, written⟩ := List.mem_flatMap.mp present
    obtain ⟨edge, hosted, rfl⟩ := List.mem_map.mp written
    have templateComplete := List.flatMap_eq_nil_iff.mp (complete_iff.mp validated) template among
    have edgesComplete := (List.append_eq_nil_iff.mp templateComplete).2
    exact Xml.edgeLines_succeeds_iff.mpr (List.flatMap_eq_nil_iff.mp edgesComplete edge hosted)
  case templates =>
    rw [complete_iff, Network.problems, List.flatMap_eq_nil_iff, List.forall_mem_map]
    simp only [Xml.renderTemplate_succeeds_iff]
  case document => rw [complete_iff, Xml.render_succeeds_iff]
  case refused =>
    intro validated
    exact Xml.render_of_problems fun complete => validated (complete_iff.mpr complete)
  case worded => exact wording_incomplete

section Dumps

variable [Runtime]

/-- A text can be written. -/
theorem Value.IsText.spelled {value : Value} (isText : value.IsText) : Spelled [] value.plainText := by
  obtain ⟨own, same⟩ := isText
  rw [plainText, showingFault?, faultWithin_of_text same (Nat.le_trans (by decide) Runtime.roomy)]
  exact .ok _

/-- The problems of a dump of texts decide what is rendered of it. -/
theorem Dump.problemsDecide {dump : Dump} (textual : dump.Textual) :
    ProblemsDecide dump.problems Value.plainText dump.validate (dump.brokenInitials + dump.brokenEnds)
      (dump.templates.members.flatMap fun template =>
        template.edges.members.map (Dump.inspectEdge template))
      (dump.templates.members.map Dump.renderTemplate) dump.render .network := by
  have complete_iff : dump.validate = .ok [] ↔ dump.problems = [] := listed_nil_iff
  constructor
  case found => exact dump.length_problems
  case counted =>
    intro texts listed
    rw [length_of_listed listed, dump.length_problems]
  case listed =>
    exact Spelled.mapM fun problem among => Problem.spelled_wording (isText_of_problems textual among).spelled
  case edges =>
    intro validated lines present
    obtain ⟨template, among, written⟩ := List.mem_flatMap.mp present
    obtain ⟨edge, hosted, rfl⟩ := List.mem_map.mp written
    have texts := textual.templates template among
    have complete := problems_of_complete (complete_iff.mp validated) among
    exact inspectEdge_succeeds texts (texts.edges edge hosted) (edgeProblems_of_complete complete hosted)
  case templates =>
    rw [complete_iff, Network.problems, List.flatMap_eq_nil_iff, List.forall_mem_map]
    exact forall₂_congr fun template present =>
      (renderTemplate_succeeds_iff (textual.templates template present)).symm
  case document => rw [complete_iff, render_succeeds_iff textual]
  case refused =>
    intro validated
    exact render_of_problems fun complete => validated (complete_iff.mpr complete)
  case worded => exact wording_incomplete

end Dumps

section Torn

open scoped TraceAutomata.Runtime

end Torn

end TraceAutomata
