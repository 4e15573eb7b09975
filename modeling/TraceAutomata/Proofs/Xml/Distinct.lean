import TraceAutomata.Proofs.Xml.Rendering

/-!
# Documents tell views apart

The lines for a view are legible: a tag with an escaped value ends at the quote behind it, an element with
an escaped text at its end tag, and repeated blocks end where a tag of another element starts. So whatever
the texts of two networks are, their documents are equal only if their views are.
-/

namespace TraceAutomata.Xml

/-! ## Lines as characters -/

/-- A line with its line feed. -/
def charsOfLine (line : Line) : List Char :=
  line.text.toList ++ ['\n']

/-- Lines one after another. -/
def charsOfLines (lines : List Line) : List Char :=
  lines.flatMap charsOfLine

theorem toList_textOfLines (lines : List Line) : (textOfLines lines).toList = charsOfLines lines := by
  induction lines with
  | nil => rfl
  | cons line rest inductionHypothesis =>
    rw [textOfLines_cons, String.toList_append, String.toList_append, inductionHypothesis]
    rfl

theorem charsOfLines_nil : charsOfLines [] = [] := rfl

theorem charsOfLines_cons (line : Line) (rest : List Line) :
    charsOfLines (line :: rest) = charsOfLine line ++ charsOfLines rest := rfl

theorem charsOfLines_append (first second : List Line) :
    charsOfLines (first ++ second) = charsOfLines first ++ charsOfLines second :=
  List.flatMap_append

/-- The lines for the members of a list are written member by member. -/
theorem charsOfLines_flatMap {α : Type} (lines : α → List Line) (members : List α) :
    charsOfLines (members.flatMap lines) = members.flatMap fun member => charsOfLines (lines member) :=
  List.flatMap_assoc

/-! ## Legible lines -/

/-- A tag up to the value of its attribute. -/
def tagStart (element : Element) (key : AttributeKey) : List Char :=
  ("<" ++ element.tag ++ " " ++ key.text ++ "=\"").toList

theorem toList_startTag (element : Element) (key : AttributeKey) (value : String) :
    (Line.startTag element (some ⟨key, value⟩)).toList =
      tagStart element key ++ ((escapeAttribute value).toList ++ ['"', '>']) := by
  simp [Line.startTag, Line.attributeText, Attribute.text, tagStart]

theorem toList_endTag (element : Element) :
    (Line.endTag element).toList = '<' :: '/' :: (element.tag.toList ++ ['>']) := by
  simp [Line.endTag]

/-- The value of an attribute is read off a tag, whatever stands behind it. -/
theorem legible_tag (element : Element) (key : AttributeKey) (closing : List Char) :
    Legible fun value =>
      tagStart element key ++ ((escapeAttribute value).toList ++ '"' :: closing) := by
  intro left right rest other same
  simp only [List.append_assoc, List.cons_append] at same
  obtain ⟨values, remaining⟩ := escapeAttribute_cancel (List.append_cancel_left same)
  exact ⟨values, List.append_cancel_left remaining⟩

theorem charsOfLine_opening (element : Element) (key : AttributeKey) (value : String) :
    charsOfLine (.opening element (some ⟨key, value⟩)) =
      tagStart element key ++ ((escapeAttribute value).toList ++ ['"', '>', '\n']) := by
  simp [charsOfLine, Line.text, toList_startTag]

theorem charsOfLine_empty (element : Element) (key : AttributeKey) (value : String) :
    charsOfLine (.empty element ⟨key, value⟩) =
      tagStart element key ++ ((escapeAttribute value).toList ++ ['"', '/', '>', '\n']) := by
  simp [charsOfLine, Line.text, Attribute.text, tagStart]

theorem legible_opening (element : Element) (key : AttributeKey) :
    Legible fun value => charsOfLine (.opening element (some ⟨key, value⟩)) := by
  simp only [charsOfLine_opening]
  exact legible_tag element key ['>', '\n']

theorem legible_empty (element : Element) (key : AttributeKey) :
    Legible fun value => charsOfLine (.empty element ⟨key, value⟩) := by
  simp only [charsOfLine_empty]
  exact legible_tag element key ['/', '>', '\n']

/-- The text of an element is read off up to its end tag. -/
theorem legible_whole (element : Element) (mark : Option Attribute) :
    Legible fun held => charsOfLine (.whole element mark held) := by
  intro left right rest other same
  simp only [charsOfLine, Line.text, String.toList_append, toList_endTag, List.append_assoc,
    List.cons_append] at same
  obtain ⟨texts, remaining⟩ := escapeText_cancel (List.append_cancel_left same)
  exact ⟨texts, by simpa using remaining⟩

/-! ## Labels -/

/-- The start tag of a label. -/
def labelTag (keyword : String) : List Char :=
  (Line.startTag .label (some ⟨.kind, keyword⟩)).toList

theorem charsOfLines_labelLines (keyword : String) (held : Option String) :
    charsOfLines (labelLines keyword held) =
      held.toList.flatMap fun text => charsOfLine (labelLine keyword text) := by
  cases held <;> rfl

theorem charsOfLine_labelLine (keyword text : String) :
    charsOfLine (labelLine keyword text) =
      labelTag keyword ++ ((escapeText text).toList ++ ((Line.endTag .label).toList ++ ['\n'])) := by
  rw [labelLine, charsOfLine, Line.text, String.toList_append, String.toList_append,
    List.append_assoc, List.append_assoc]
  rfl

/-- A text that starts otherwise than the tag of a label does not start with such a label. -/
theorem label_neverStarts {keyword : String} {begun : List Char}
    (apart : ¬labelTag keyword <+: begun ∧ ¬begun <+: labelTag keyword) (rest : List Char) :
    NeverStarts (fun text => charsOfLine (labelLine keyword text)) (begun ++ rest) := by
  refine neverStarts_of_apart (fun text => ?_) apart rest
  rw [charsOfLine_labelLine]
  exact List.prefix_append _ _

/-! ## Legible views -/

/-- A location is read off by its tag and an optional comment, which ends at the end tag. -/
theorem LocationView.legible : Legible fun location : LocationView => charsOfLines location.lines := by
  rintro ⟨leftName, leftComment⟩ ⟨rightName, rightComment⟩ rest other same
  have ends : ∀ text, NeverStarts (fun held => charsOfLine (labelLine commentKeyword held))
      (charsOfLine (.closing .location) ++ text) :=
    label_neverStarts (by decide)
  simp only [LocationView.lines, charsOfLines_append, charsOfLines_cons, charsOfLines_nil,
    charsOfLines_labelLines, List.append_assoc, List.nil_append] at same
  obtain ⟨rfl, afterTag⟩ := legible_opening .location .id _ _ _ _ same
  have afterName := List.append_cancel_left afterTag
  obtain ⟨rfl, afterComment⟩ := (legible_whole .label (some ⟨.kind, commentKeyword⟩)).option_cancel
    (ends _) (ends _) afterName
  exact ⟨rfl, List.append_cancel_left afterComment⟩

/-- An edge is read off by its references and two optional labels, which are told apart by their
keywords. -/
theorem EdgeView.legible : Legible fun edge : EdgeView => charsOfLines edge.lines := by
  rintro ⟨leftSource, leftTarget, leftGuard, leftUpdate⟩
    ⟨rightSource, rightTarget, rightGuard, rightUpdate⟩ rest other same
  have updateEnds : ∀ text, NeverStarts (fun held => charsOfLine (labelLine Role.update.keyword held))
      (charsOfLine (.closing .transition) ++ text) :=
    label_neverStarts (by decide)
  have guardEnds : ∀ (update : Option String) text,
      NeverStarts (fun held => charsOfLine (labelLine Role.guard.keyword held))
        ((update.toList.flatMap fun held => charsOfLine (labelLine Role.update.keyword held))
          ++ (charsOfLine (.closing .transition) ++ text)) := by
    intro update text
    cases update with
    | none => exact label_neverStarts (by decide) text
    | some held =>
      rw [Option.toList_some, List.flatMap_singleton, charsOfLine_labelLine Role.update.keyword held,
        List.append_assoc]
      exact label_neverStarts (by decide) _
  simp only [EdgeView.lines, charsOfLines_append, charsOfLines_cons, charsOfLines_nil,
    charsOfLines_labelLines, List.append_assoc, List.nil_append] at same
  obtain ⟨rfl, afterSource⟩ := legible_empty .source .ref _ _ _ _ (List.append_cancel_left same)
  obtain ⟨rfl, afterTarget⟩ := legible_empty .target .ref _ _ _ _ afterSource
  obtain ⟨rfl, afterGuard⟩ := (legible_whole .label (some ⟨.kind, Role.guard.keyword⟩)).option_cancel
    (guardEnds _ _) (guardEnds _ _) afterTarget
  obtain ⟨rfl, afterUpdate⟩ := (legible_whole .label (some ⟨.kind, Role.update.keyword⟩)).option_cancel
    (updateEnds _) (updateEnds _) afterGuard
  exact ⟨rfl, List.append_cancel_left afterUpdate⟩

/-- A block of declarations is an element that holds the joined declarations on lines of their own. -/
theorem charsOfLines_blockLines (held : Option String) :
    charsOfLines (blockLines held) =
      (Line.startTag .declaration none).toList
        ++ ((escapeText (held.elim "" fun body => "\n" ++ body ++ "\n")).toList
          ++ ('<' :: '/' :: (Element.declaration.tag.toList ++ ['>', '\n']))) := by
  cases held with
  | none =>
    show charsOfLine (.whole .declaration none "") ++ [] = _
    simp [charsOfLine, Line.text, toList_endTag]
  | some body =>
    show charsOfLine (.opening .declaration none) ++ (charsOfLine (.content body)
      ++ (charsOfLine (.closing .declaration) ++ [])) = _
    simp [charsOfLine, Line.text, toList_endTag, escapeText_append]

theorem legible_block : Legible fun held => charsOfLines (blockLines held) := by
  intro left right rest other same
  simp only [charsOfLines_blockLines, List.append_assoc, List.cons_append] at same
  obtain ⟨bodies, remaining⟩ := escapeText_cancel (List.append_cancel_left same)
  refine ⟨?_, by simpa using remaining⟩
  have chars := congrArg String.toList bodies
  cases left <;> cases right <;> simp_all

theorem LocationView.starts (location : LocationView) :
    tagStart .location .id <+: charsOfLines location.lines := by
  simp only [lines, charsOfLines_append, charsOfLines_cons, charsOfLine_opening, List.append_assoc]
  exact List.prefix_append _ _

/-- A template is read off part by part. Its locations end at the initial reference, and its edges at the
end tag. -/
theorem TemplateView.legible : Legible fun template : TemplateView => charsOfLines template.lines := by
  rintro ⟨leftName, leftDeclarations, leftLocations, leftInitial, leftEdges⟩
    ⟨rightName, rightDeclarations, rightLocations, rightInitial, rightEdges⟩ rest other same
  have locationsEnd : ∀ initial text,
      NeverStarts (fun location : LocationView => charsOfLines location.lines)
        (charsOfLine (referenceLine .initial initial) ++ text) := by
    intro initial text
    rw [referenceLine, charsOfLine_empty, List.append_assoc]
    exact neverStarts_of_apart LocationView.starts (by decide) _
  have edgesEnd : ∀ text, NeverStarts (fun edge : EdgeView => charsOfLines edge.lines)
      (charsOfLine (.closing .template) ++ text) :=
    neverStarts_of_apart (fun edge => List.prefix_append (charsOfLine (.opening .transition none)) _)
      (by decide)
  simp only [TemplateView.lines, charsOfLines_append, charsOfLines_cons, charsOfLines_nil,
    charsOfLines_flatMap, List.append_assoc, List.nil_append] at same
  obtain ⟨rfl, afterName⟩ := legible_whole .name none _ _ _ _ (List.append_cancel_left same)
  obtain ⟨rfl, afterDeclarations⟩ := legible_block _ _ _ _ afterName
  obtain ⟨rfl, afterLocations⟩ := LocationView.legible.flatMap_cancel (locationsEnd _ _)
    (locationsEnd _ _) afterDeclarations
  obtain ⟨rfl, afterInitial⟩ := legible_empty .initial .ref _ _ _ _ afterLocations
  obtain ⟨rfl, afterEdges⟩ := EdgeView.legible.flatMap_cancel (edgesEnd _) (edgesEnd _) afterInitial
  exact ⟨rfl, List.append_cancel_left afterEdges⟩

/-! ## Whole documents -/

theorem charsOfLines_contents (held : Option String) :
    charsOfLines (held.map Line.content).toList =
      (escapeText (held.elim "" fun body => body ++ "\n")).toList := by
  cases held with
  | none => rfl
  | some body =>
    simp [charsOfLines_cons, charsOfLines_nil, charsOfLine, Line.text, escapeText_append]

/-- Different declarations of the system block are written differently. -/
theorem contents_injective {left right : Option String}
    (same : charsOfLines (left.map Line.content).toList = charsOfLines (right.map Line.content).toList) :
    left = right := by
  rw [charsOfLines_contents, charsOfLines_contents] at same
  have bodies := congrArg String.toList (escapeText_injective (String.toList_inj.mp same))
  cases left with
  | none => cases right <;> simp_all
  | some leftBody =>
    cases right with
    | none => simp at bodies
    | some rightBody =>
      have texts : leftBody.toList = rightBody.toList := by simpa using bodies
      rw [String.toList_inj.mp texts]

/-- The lines for different views are written differently. The end of a document is known once the names
of the templates are, so the system block is what is left between them. -/
theorem View.eq_of_text_eq {left right : View}
    (same : textOfLines left.lines = textOfLines right.lines) : left = right := by
  obtain ⟨leftGlobal, leftSystem, leftTemplates⟩ := left
  obtain ⟨rightGlobal, rightSystem, rightTemplates⟩ := right
  have templatesEnd : ∀ text, NeverStarts (fun template : TemplateView => charsOfLines template.lines)
      (charsOfLine (.opening .system none) ++ text) :=
    neverStarts_of_apart (fun template => List.prefix_append (charsOfLine (.opening .template none)) _)
      (by decide)
  have chars := congrArg String.toList same
  simp only [toList_textOfLines, View.lines, charsOfLines_append, charsOfLines_cons, charsOfLines_nil,
    charsOfLines_flatMap, List.append_assoc, List.nil_append] at chars
  have afterHeader := List.append_cancel_left
    (List.append_cancel_left (List.append_cancel_left chars))
  obtain ⟨rfl, afterGlobal⟩ := legible_block _ _ _ _ afterHeader
  obtain ⟨rfl, afterTemplates⟩ := TemplateView.legible.flatMap_cancel (templatesEnd _)
    (templatesEnd _) afterGlobal
  have contents := List.append_cancel_right (List.append_cancel_left afterTemplates)
  rw [contents_injective contents]

/-- Two networks that are rendered have the same document exactly when they have the same view. -/
theorem render_eq_iff_view_eq {left right : Network} {leftText rightText : String}
    (leftRendered : (render left).outcome = .ok leftText)
    (rightRendered : (render right).outcome = .ok rightText) :
    leftText = rightText ↔ view? left = view? right := by
  obtain ⟨leftView, leftSeen, rfl⟩ := view_of_render leftRendered
  obtain ⟨rightView, rightSeen, rfl⟩ := view_of_render rightRendered
  rw [leftSeen, rightSeen, Option.some.injEq]
  constructor
  · exact View.eq_of_text_eq
  · exact congrArg fun view : View => textOfLines view.lines

/-- A network of one location with an edge back to it, with texts that look like markup. -/
def looping (id : Int) (updates : List Update) : Network :=
  { name := ""
    templates := .single
      { id, name := "</system>"
        locations := .single { id, owner := id, name := "L\"0" }
        edges := .single
          { id, owner := id, source := some id, target := some id, guard := some ⟨"x<1"⟩, updates }
        initial := some id }
    locationCount := 1 }

/-- Networks with different identifiers, of which one has updates that are not written. -/
theorem looping_render_eq_iff :
    ∃ leftText rightText, (render (looping 0 [])).outcome = .ok leftText ∧
      (render (looping 7 [⟨"x"⟩, ⟨"y"⟩])).outcome = .ok rightText ∧
      (leftText = rightText ↔ view? (looping 0 []) = view? (looping 7 [⟨"x"⟩, ⟨"y"⟩])) :=
  ⟨_, _, rfl, rfl, render_eq_iff_view_eq rfl rfl⟩

end TraceAutomata.Xml
