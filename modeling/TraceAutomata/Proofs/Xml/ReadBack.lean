import Mathlib.Data.List.Infix
import TraceAutomata.Proofs.Chain.Transcript
import TraceAutomata.Proofs.Xml.Processor
import TraceAutomata.Runtime.Standard
import TraceAutomata.Trace.Reader

/-!
# Reading documents back

The document for a view is written for the tags `View.reports`, with the names and the texts that the view shows. A
processor refuses it exactly when one of them holds a character that no document may hold, and else reports
these tags as they are read (`process?_textOfLines`). So a document is read back as it is meant when no text has a
carriage return and no value of an attribute a tab or a line end.

The tags of a document are nested because those of each part are (`Balanced`), whatever is open around it.
-/

namespace TraceAutomata.Xml

/-! ## Tags as they are meant -/

/-- A reference to a location by its name. -/
def referenceReport (element : Element) (name : String) : Reported :=
  .empty element ⟨.ref, name⟩

/-- An element that holds a text. -/
def wholeReports (element : Element) (mark : Option Attribute) (held : String) : List Reported :=
  [.opening element mark held, .closing element]

/-- A label, if there is something to show. -/
def labelReports (keyword : String) (held : Option String) : List Reported :=
  held.toList.flatMap (wholeReports .label (some ⟨.kind, keyword⟩))

/-- The joined declarations, on lines of their own. -/
def blockReports (held : Option String) : List Reported :=
  wholeReports .declaration none (held.elim "" fun body => "\n" ++ body ++ "\n")

/-- The tags of a location. -/
def LocationView.reports (location : LocationView) : List Reported :=
  .opening .location (some ⟨.id, location.name⟩) "\n" ::
    (wholeReports .name none location.name ++ labelReports commentKeyword location.comment) ++ [.closing .location]

/-- The tags of an edge. -/
def EdgeView.reports (edge : EdgeView) : List Reported :=
  .opening .transition none "\n" ::
    ([referenceReport .source edge.source, referenceReport .target edge.target]
      ++ labelReports Role.guard.keyword edge.guard ++ labelReports Role.update.keyword edge.update)
    ++ [.closing .transition]

/-- The tags of a template. -/
def TemplateView.reports (template : TemplateView) : List Reported :=
  .opening .template none "\n" ::
    (wholeReports .name none template.name ++ blockReports template.declarations
      ++ template.locations.flatMap LocationView.reports ++ [referenceReport .initial template.initial]
      ++ template.edges.flatMap EdgeView.reports)
    ++ [.closing .template]

/-- The texts of the system block. -/
def View.systemTexts (view : View) : List String :=
  let started := (view.templates.map TemplateView.name).zipIdx.map fun numbered =>
    (processName (numbered.2 + 1), numbered.1)
  view.systemDeclarations.toList ++ started.map processText
    ++ ["system ", ", ".intercalate (started.map Prod.fst) ++ ";"]

/-- The tags of a document. -/
def View.reports (view : View) : List Reported :=
  .opening .network none "\n" ::
    (blockReports view.globalDeclarations ++ view.templates.flatMap TemplateView.reports
      ++ wholeReports .system none (Text.ofLines ("" :: view.systemTexts)))
    ++ [.closing .network]

/-! ## What is written for tags -/

theorem charsOfLines_contents_eq (texts : List String) :
    charsOfLines (texts.map Line.content) = (escapeText (Text.ofLines texts)).toList := by
  induction texts with
  | nil => rfl
  | cons text rest inductionHypothesis =>
    have joined : Text.ofLines (text :: rest) = text ++ "\n" ++ Text.ofLines rest := by
      simp [Text.ofLines, String.join_cons]
    rw [List.map_cons, charsOfLines_cons, inductionHypothesis, joined, escapeText_append, escapeText_append,
      escapeText_lineFeed, String.toList_append, String.toList_append]
    rfl

section Yielding

variable [Runtime]

theorem yields_opening (element : Element) (mark : Option Attribute) :
    Yields (charsOfLine (.opening element mark)) [.opening element mark "\n"] := by
  have yields := yields_startTag element mark "\n"
  rwa [escapeText_lineFeed] at yields

/-- An element that holds a text, with the line feed behind it. -/
theorem yields_held (element : Element) (mark : Option Attribute) (held : String) :
    Yields ((Line.startTag element mark).toList ++ (escapeText held).toList ++ charsOfLine (.closing element))
      (wholeReports element mark held) :=
  (yields_startTag element mark held).append (yields_closing element)

theorem yields_whole (element : Element) (mark : Option Attribute) (held : String) :
    Yields (charsOfLine (.whole element mark held)) (wholeReports element mark held) := by
  simpa [charsOfLine, Line.text] using yields_held element mark held

theorem yields_labelLines (keyword : String) (held : Option String) :
    Yields (charsOfLines (labelLines keyword held)) (labelReports keyword held) := by
  rw [charsOfLines_labelLines]
  exact .flatMap (yields_whole .label (some ⟨.kind, keyword⟩)) held.toList

theorem yields_blockLines (held : Option String) :
    Yields (charsOfLines (blockLines held)) (blockReports held) := by
  have yields := yields_held .declaration none (held.elim "" fun body => "\n" ++ body ++ "\n")
  rw [charsOfLines_blockLines]
  simpa [blockReports, charsOfLine, Line.text, toList_endTag] using yields

theorem LocationView.yields (location : LocationView) : Yields (charsOfLines location.lines) location.reports := by
  have yields := (yields_opening .location (some ⟨.id, location.name⟩)).append
    (((yields_whole .name none location.name).append (yields_labelLines commentKeyword location.comment)).append
      (yields_closing .location))
  simpa [LocationView.lines, LocationView.reports, charsOfLines_append, charsOfLines_cons, charsOfLines_nil]
    using yields

theorem EdgeView.yields (edge : EdgeView) : Yields (charsOfLines edge.lines) edge.reports := by
  have yields := (yields_opening .transition none).append
    ((yields_empty .source ⟨.ref, edge.source⟩).append ((yields_empty .target ⟨.ref, edge.target⟩).append
      ((yields_labelLines Role.guard.keyword edge.guard).append
        ((yields_labelLines Role.update.keyword edge.update).append (yields_closing .transition)))))
  simpa [EdgeView.lines, EdgeView.reports, charsOfLines_append, charsOfLines_cons, charsOfLines_nil, referenceLine,
    referenceReport] using yields

theorem TemplateView.yields (template : TemplateView) : Yields (charsOfLines template.lines) template.reports := by
  have yields := (yields_opening .template none).append ((yields_whole .name none template.name).append
    ((yields_blockLines template.declarations).append
      ((Yields.flatMap LocationView.yields template.locations).append
        ((yields_empty .initial ⟨.ref, template.initial⟩).append
          ((Yields.flatMap EdgeView.yields template.edges).append (yields_closing .template))))))
  simpa [TemplateView.lines, TemplateView.reports, charsOfLines_append, charsOfLines_cons, charsOfLines_nil,
    charsOfLines_flatMap, referenceLine, referenceReport] using yields

/-- The lines of the system block are one text inside an element. -/
theorem View.yields_system (view : View) :
    Yields (charsOfLines ([.opening .system none] ++ (view.systemDeclarations.map Line.content).toList
        ++ startedLines (view.templates.map TemplateView.name)))
      (wholeReports .system none (Text.ofLines ("" :: view.systemTexts)) ++ [.closing .network]) := by
  have yields := (yields_held .system none (Text.ofLines ("" :: view.systemTexts))).append (yields_closing .network)
  have contents : (view.systemDeclarations.map Line.content).toList =
      view.systemDeclarations.toList.map Line.content := by
    cases view.systemDeclarations <;> rfl
  have empty : escapeText "" = "" := by decide
  rw [← charsOfLines_contents_eq] at yields
  simpa [View.systemTexts, startedLines, contents, charsOfLines_append, charsOfLines_cons, charsOfLines_nil,
    charsOfLine, Line.text, Function.comp_def, empty] using yields

/-- The document for a view is written for the tags of the view. -/
theorem View.yields (view : View) : Yields (charsOfLines view.lines) view.reports := by
  have first : Yields (charsOfLine (.verbatim prolog)) [] := yields_verbatim isAside_prolog
    (all_isXmlChar_of_assigned (by decide +kernel))
  have second : Yields (charsOfLine (.verbatim documentType)) [] :=
    yields_verbatim isAside_documentType (all_isXmlChar_of_assigned (by decide +kernel))
  have yields := first.append (second.append ((yields_opening .network none).append
    ((yields_blockLines view.globalDeclarations).append
      ((Yields.flatMap TemplateView.yields view.templates).append view.yields_system))))
  simpa [View.lines, View.reports, charsOfLines_append, charsOfLines_cons, charsOfLines_nil, charsOfLines_flatMap]
    using yields

end Yielding

/-! ## Nested tags -/

/-- Tags that leave the elements around them open, and no others. -/
def Balanced (reports : List Reported) : Prop :=
  ∀ opened rest, nested opened (reports ++ rest) = nested opened rest

theorem Balanced.nil : Balanced [] := fun _ _ => rfl

theorem Balanced.append {first second : List Reported} (balanced : Balanced first) (balancedNext : Balanced second) :
    Balanced (first ++ second) := by
  intro opened rest
  rw [List.append_assoc, balanced, balancedNext]

theorem Balanced.flatMap {α : Type} {reports : α → List Reported} (balanced : ∀ held, Balanced (reports held))
    (members : List α) : Balanced (members.flatMap reports) := by
  induction members with
  | nil => exact .nil
  | cons first rest inductionHypothesis => exact (balanced first).append inductionHypothesis

theorem Balanced.within {inner : List Reported} (balanced : Balanced inner) (element : Element)
    (mark : Option Attribute) (text : String) :
    Balanced (.opening element mark text :: inner ++ [.closing element]) := by
  intro opened rest
  have inside := balanced (element.tag :: opened) (.closing element :: rest)
  have ended : nested (element.tag :: opened) (.closing element :: rest) = nested opened rest := by
    simp [nested, Reported.closing]
  rw [List.cons_append, List.cons_append, List.append_assoc, List.singleton_append]
  exact inside.trans ended

theorem balanced_reference (element : Element) (name : String) : Balanced [referenceReport element name] :=
  fun _ _ => rfl

theorem balanced_whole (element : Element) (mark : Option Attribute) (held : String) :
    Balanced (wholeReports element mark held) :=
  Balanced.nil.within element mark held

theorem balanced_labelReports (keyword : String) (held : Option String) : Balanced (labelReports keyword held) :=
  .flatMap (balanced_whole .label (some ⟨.kind, keyword⟩)) held.toList

theorem LocationView.balanced (location : LocationView) : Balanced location.reports :=
  ((balanced_whole .name none location.name).append (balanced_labelReports commentKeyword location.comment)).within
    .location _ _

theorem EdgeView.balanced (edge : EdgeView) : Balanced edge.reports :=
  ((((balanced_reference .source edge.source).append (balanced_reference .target edge.target)).append
    (balanced_labelReports Role.guard.keyword edge.guard)).append
      (balanced_labelReports Role.update.keyword edge.update)).within .transition _ _

theorem TemplateView.balanced (template : TemplateView) : Balanced template.reports :=
  (((((balanced_whole .name none template.name).append (balanced_whole .declaration none _)).append
    (.flatMap LocationView.balanced template.locations)).append (balanced_reference .initial template.initial)).append
      (.flatMap EdgeView.balanced template.edges)).within .template _ _

theorem View.balanced (view : View) : Balanced view.reports :=
  (((balanced_whole .declaration none _).append (.flatMap TemplateView.balanced view.templates)).append
    (balanced_whole .system none _)).within .network _ _

/-- Tags that are read are nested as they were. -/
theorem nested_map_read (opened : List String) (reports : List Reported) :
    nested opened (reports.map Reported.read) = nested opened reports := by
  fun_induction nested opened reports with
  | case1 => rfl
  | case2 reported rest opened starts inductionHypothesis =>
    have kind : reported.read.kind = .start := starts
    simp only [List.map_cons, nested, kind]
    exact inductionHypothesis
  | case3 reported rest opened isEmpty inductionHypothesis =>
    have kind : reported.read.kind = .empty := isEmpty
    simp only [List.map_cons, nested, kind]
    exact inductionHypothesis
  | case4 reported rest finishes =>
    have kind : reported.read.kind = .finish := finishes
    simp only [List.map_cons, nested, kind]
  | case5 reported rest last others finishes inductionHypothesis =>
    have kind : reported.read.kind = .finish := finishes
    simp only [List.map_cons, nested, kind, inductionHypothesis]
    rfl

/-- The tags of a part stand together among those of all parts. -/
theorem infix_flatMap_of_mem {α : Type} {part : α} {parts : List α} (among : part ∈ parts)
    (reports : α → List Reported) : reports part <:+: parts.flatMap reports := by
  rw [List.flatMap_def]
  exact List.infix_of_mem_flatten (List.mem_map_of_mem among)

/-- The tag of a location and the tag of its name stand together in the document. -/
theorem LocationView.infix_reports {view : View} {template : TemplateView} {location : LocationView}
    (templateAmong : template ∈ view.templates) (among : location ∈ template.locations) :
    [.opening .location (some ⟨.id, location.name⟩) "\n", .opening .name none location.name]
      <:+: view.reports := by
  have first : [.opening .location (some ⟨.id, location.name⟩) "\n", .opening .name none location.name]
      <:+: location.reports :=
    (List.prefix_append [_, _] _).isInfix
  have second : location.reports <:+: template.reports :=
    (infix_flatMap_of_mem among LocationView.reports).trans ⟨
      .opening .template none "\n" :: (wholeReports .name none template.name ++ blockReports template.declarations),
      [referenceReport .initial template.initial] ++ template.edges.flatMap EdgeView.reports ++ [.closing .template],
      by simp [TemplateView.reports]⟩
  have third : template.reports <:+: view.reports :=
    (infix_flatMap_of_mem templateAmong TemplateView.reports).trans ⟨
      .opening .network none "\n" :: blockReports view.globalDeclarations,
      wholeReports .system none (Text.ofLines ("" :: view.systemTexts)) ++ [.closing .network],
      by simp [View.reports]⟩
  exact first.trans (second.trans third)

/-! ## Documents that are read back -/

section Reading

variable [Runtime]

/-- A processor refuses the document for a view exactly when a name or a text of the view is not legal, and else
reports the tags of the view as they are read. -/
theorem process?_textOfLines (view : View) : process? (textOfLines view.lines) =
    if view.reports.all Reported.isLegal then some (view.reports.map Reported.read) else none := by
  obtain ⟨legal, pieces, reported, scanned⟩ := view.yields
  have pieced : (scan (Text.unifyLineEnds (textOfLines view.lines).toList)).2 = pieces.map Piece.unified := by
    rw [scan_unifyLineEnds, toList_textOfLines, ← List.append_nil (charsOfLines view.lines), scanned [] rfl]
    exact congrArg _ (List.append_nil pieces)
  have closed : nested [] (view.reports.map Reported.read) = true := by
    have balanced := view.balanced [] []
    rwa [List.append_nil, ← nested_map_read] at balanced
  rw [process?, pieced, toList_textOfLines, legal]
  rw [reportsOf?] at reported
  by_cases all : view.reports.all Reported.isLegal = true
  · simp [all, reported, closed, guard]
  · simp only [all, guard]
    rfl

/-- What a processor makes of the document for a view. It is refused when a name or a text has a character that no
document may hold, and only then. Else the tags of the view are reported as they are read, which is as they are meant
when no value has a tab or a line end and no text a carriage return. -/
structure ReadsBack (view : View) (document : String) : Prop where
  legal_iff : document.toList.all isXmlChar = true ↔ ∀ meant ∈ view.reports, meant.isLegal = true
  refused_iff : process? document = none ↔ document.toList.all isXmlChar = false
  reported : document.toList.all isXmlChar = true → process? document = some (view.reports.map Reported.read)
  exact_iff : process? document = some view.reports ↔ ∀ meant ∈ view.reports,
    meant.isLegal = true ∧ (∀ given ∈ meant.attributes, Unbroken given.2) ∧ '\r' ∉ meant.text.toList
  named : ∀ template ∈ view.templates, ∀ location ∈ template.locations,
    [.opening .location (some ⟨.id, readValue location.name⟩) "\n", .opening .name none (readText location.name)]
        <:+: view.reports.map Reported.read ∧
      (readValue location.name = readText location.name ↔ Unbroken location.name)

theorem readsBack_textOfLines (view : View) : ReadsBack view (textOfLines view.lines) := by
  have legal : (textOfLines view.lines).toList.all isXmlChar = view.reports.all Reported.isLegal := by
    rw [toList_textOfLines, view.yields.legal]
  have processed := process?_textOfLines view
  rw [← legal] at processed
  refine ⟨by rw [legal, List.all_eq_true], ?_, fun isLegal => by rw [processed, if_pos isLegal], ?_, ?_⟩
  · rw [processed]
    split_ifs with isLegal <;> simp [isLegal]
  · rw [processed, legal]
    simp only [forall_and, ← Reported.read_eq_self_iff, ← map_eq_self_iff, ← List.all_eq_true]
    split_ifs with isLegal <;> simp [isLegal]
  · intro template templateAmong location among
    have together := (LocationView.infix_reports templateAmong among).map Reported.read
    have feed : readText "\n" = "\n" := by decide
    simp only [List.map_cons, List.map_nil, Reported.read, Reported.opening, meantAttributes, Option.map_some,
      Option.map_none, Option.toList_some, Option.toList_none, feed] at together
    exact ⟨together, readValue_eq_readText_iff⟩

/-- Whatever the trace and the settings are, the document is read back as it is meant where the names and the texts
allow it. -/
theorem document_reads_back (config : Config) (name : String) (statements : List Statement) (builder : Builder) :
    ∃ network view document, (Traversal.build config name statements builder).answer = .ok network ∧
      view? network = some view ∧ render network = ⟨[], .ok document⟩ ∧ ReadsBack view document := by
  obtain ⟨view, seen⟩ := problems_eq_nil_iff.mp (Chain.problems_network config name statements)
  obtain ⟨document, rendered, -⟩ := Chain.render_network config name statements
  have text : document = textOfLines view.lines := by
    rw [render_of_view seen] at rendered
    exact (Except.ok.inj (Journaled.mk.inj rendered).2).symm
  refine ⟨_, view, document, Chain.answer_build config name statements builder, seen, rendered, ?_⟩
  rw [text]
  exact readsBack_textOfLines view

/-- The document of a trace that is given as a text. -/
def documentOf? (config : Config) (name text : String) : Option String := do
  let trace ← (Trace.ofText (some name) text).outcome.toOption
  let network ← (Traversal.build config trace.name trace.statements {}).answer.toOption
  (render network).outcome.toOption

theorem documentOf?_eq {config : Config} {name text : String} (trace : Trace) {view : View}
    (read : (Trace.ofText (some name) text).outcome = .ok trace)
    (seen : view? (Chain.network config trace.name trace.statements) = some view) :
    documentOf? config name text = some (textOfLines view.lines) := by
  rw [documentOf?, read]
  show ((Traversal.build config trace.name trace.statements {}).answer.toOption >>= _) = _
  rw [Chain.answer_build]
  show (render (Chain.network config trace.name trace.statements)).outcome.toOption = _
  rw [render_of_view seen]
  rfl

end Reading

/-! ## Documents that are not -/

section Standard

open scoped TraceAutomata.Runtime

/-- The view of a trace that is one assignment. -/
def assigningView (update : String) : View :=
  { globalDeclarations := none
    systemDeclarations := none
    templates := [
      { name := "lamp"
        declarations := none
        locations := [⟨"Init_0", none⟩, ⟨"Location_1", none⟩]
        initial := "Init_0"
        edges := [⟨"Init_0", "Location_1", none, some update⟩] }] }

/-- The view of a trace without statements. -/
def emptyView (initial : String) : View :=
  { globalDeclarations := none
    systemDeclarations := none
    templates := [⟨"lamp", none, [⟨initial, none⟩], initial, []⟩] }

/-- A bell in an expression makes a document that is refused. A carriage return in an expression is read as a line
feed. A tab in a prefix is read as a blank in the identifier of a location, and as it is in the name. -/
theorem not_read_back :
    (∃ document, documentOf? {} "lamp" "- kind: assignment\n  expression: \"x\\a\"\n" = some document ∧
        process? document = none) ∧
      (∃ document reports,
        documentOf? {} "lamp" "- kind: assignment\n  expression: \"x = 1\\r+ 2\"\n" = some document ∧
          process? document = some reports ∧
          .opening .label (some ⟨.kind, Role.update.keyword⟩) "x = 1\n+ 2" ∈ reports) ∧
      ∃ document reports, documentOf? { initialStem := "L\t" } "lamp" "[]" = some document ∧
        process? document = some reports ∧
          [.opening .location (some ⟨.id, "L _0"⟩) "\n", .opening .name none "L\t_0"] <:+: reports := by
  have processed (view : View) (legal : view.reports.all Reported.isLegal = true) :
      process? (textOfLines view.lines) = some (view.reports.map Reported.read) := by
    rw [process?_textOfLines, if_pos legal]
  refine ⟨⟨textOfLines (assigningView "x\x07").lines, ?_, ?_⟩,
    ⟨textOfLines (assigningView "x = 1\r+ 2").lines, _, ?_, processed _ (by decide +kernel), by decide +kernel⟩,
    ⟨textOfLines (emptyView "L\t_0").lines, _, ?_, processed _ (by decide +kernel), by decide +kernel⟩⟩
  · exact documentOf?_eq ⟨"lamp", [{ kind := .assignment, expressions := ["x\x07"] }]⟩
      (by decide +kernel) (by decide +kernel)
  · rw [process?_textOfLines, if_neg (by decide +kernel)]
  · exact documentOf?_eq ⟨"lamp", [{ kind := .assignment, expressions := ["x = 1\r+ 2"] }]⟩
      (by decide +kernel) (by decide +kernel)
  · exact documentOf?_eq ⟨"lamp", []⟩ (by decide +kernel) (by decide +kernel)

end Standard

end TraceAutomata.Xml
