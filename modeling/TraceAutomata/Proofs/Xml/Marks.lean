import TraceAutomata.Proofs.Xml.Distinct

/-!
# Reading a document back

A document is read as a sequence of tags, each with the text up to the next tag. `marks` keeps of these
what the references and the labels are told by: where templates and transitions start and end, the
identifiers of locations, the references, and the labels with their texts, all as they are emitted.

The reader knows nothing of how a document was written. `marks_textOfLines` says what it finds in the
document for a view: no escaped text holds a less-than sign, so no text is taken for a tag.
-/

namespace TraceAutomata.Xml

/-! ## The reader -/

/-- A tag without its brackets, and the text from there up to the next tag. -/
structure Piece where
  tag : List Char
  held : List Char
  deriving DecidableEq, Repr

/-- The text in front of the first tag, and the tags with the texts behind them. -/
def scan : List Char → List Char × List Piece
  | [] => ([], [])
  | character :: rest =>
    let (front, pieces) := scan rest
    if character = '<' then
      ([], ⟨front.takeWhile (· ≠ '>'), (front.dropWhile (· ≠ '>')).drop 1⟩ :: pieces)
    else (character :: front, pieces)

/-- What a document says at a tag. -/
inductive Mark
  | templateStart
  | templateEnd
  | transitionStart
  | transitionEnd
  | location (id : String)
  | reference (element : Element) (name : String)
  | label (keyword text : String)
  deriving DecidableEq, Repr

/-- The start of a tag up to the value of its attribute. -/
def attributeStart (element : Element) (key : AttributeKey) : List Char :=
  (element.tag ++ " " ++ key.text ++ "=\"").toList

/-- The value of the attribute in the tag of an element. -/
def attribute? (element : Element) (key : AttributeKey) (tag : List Char) : Option String :=
  if (attributeStart element key).isPrefixOf tag then
    some (String.ofList ((tag.drop (attributeStart element key).length).takeWhile (· ≠ '"')))
  else none

/-- The tags that start or end a template or a transition. -/
def borders : List (List Char × Mark) :=
  [("template".toList, .templateStart), ("/template".toList, .templateEnd),
   ("transition".toList, .transitionStart), ("/transition".toList, .transitionEnd)]

/-- What a tag says together with the text behind it. -/
def Piece.mark? (piece : Piece) : Option Mark :=
  borders.lookup piece.tag
    <|> (attribute? .location .id piece.tag).map Mark.location
    <|> (attribute? .initial .ref piece.tag).map (Mark.reference .initial)
    <|> (attribute? .source .ref piece.tag).map (Mark.reference .source)
    <|> (attribute? .target .ref piece.tag).map (Mark.reference .target)
    <|> (attribute? .label .kind piece.tag).map fun keyword => .label keyword (String.ofList piece.held)

/-- What a row of characters says, tag by tag. -/
def marksOf (characters : List Char) : List Mark :=
  (scan characters).2.filterMap Piece.mark?

/-- What a document says, tag by tag. -/
def marks (document : String) : List Mark :=
  marksOf document.toList

/-! ## Rows of characters that are read alone -/

/-- A row of characters says the same whatever stands behind it. -/
def Reads (characters : List Char) (said : List Mark) : Prop :=
  ∀ rest, marksOf (characters ++ rest) = said ++ marksOf rest

theorem Reads.nil : Reads [] [] := fun _ => rfl

theorem Reads.append {first second : List Char} {said saidNext : List Mark} (reads : Reads first said)
    (readsNext : Reads second saidNext) : Reads (first ++ second) (said ++ saidNext) := by
  intro rest
  rw [List.append_assoc, reads, readsNext, List.append_assoc]

theorem Reads.flatMap {α : Type} {write : α → List Char} {said : α → List Mark}
    (reads : ∀ held, Reads (write held) (said held)) (members : List α) :
    Reads (members.flatMap write) (members.flatMap said) := by
  induction members with
  | nil => exact .nil
  | cons first rest inductionHypothesis => exact (reads first).append inductionHypothesis

theorem scan_plain {text : List Char} (plain : '<' ∉ text) (rest : List Char) :
    scan (text ++ rest) = (text ++ (scan rest).1, (scan rest).2) := by
  induction text with
  | nil => rfl
  | cons first others inductionHypothesis =>
    simp only [List.mem_cons, not_or] at plain
    rw [List.cons_append, scan, inductionHypothesis plain.2]
    simp [Ne.symm plain.1]

/-- A text without tags says nothing. -/
theorem reads_plain {text : List Char} (plain : '<' ∉ text) : Reads text [] := by
  intro rest
  rw [marksOf, scan_plain plain]
  rfl

section Marked

variable {α : Type} [DecidableEq α] {mark : α} {text : List α}

theorem takeWhile_append_mark (clean : mark ∉ text) (rest : List α) :
    (text ++ mark :: rest).takeWhile (· ≠ mark) = text := by
  rw [List.takeWhile_append_of_pos]
  · simp
  · intro character present
    have different : character ≠ mark := fun same => clean (same ▸ present)
    simpa using different

theorem dropWhile_append_mark (clean : mark ∉ text) (rest : List α) :
    (text ++ mark :: rest).dropWhile (· ≠ mark) = mark :: rest := by
  rw [List.dropWhile_append_of_pos]
  · simp
  · intro character present
    have different : character ≠ mark := fun same => clean (same ▸ present)
    simpa using different

end Marked

theorem scan_tag {tag : List Char} (plain : '<' ∉ tag) (whole : '>' ∉ tag) (rest : List Char) :
    scan ('<' :: (tag ++ '>' :: rest)) = ([], ⟨tag, (scan rest).1⟩ :: (scan rest).2) := by
  have closed : scan (tag ++ '>' :: rest) = (tag ++ '>' :: (scan rest).1, (scan rest).2) := by
    rw [scan_plain plain, scan]
    simp
  rw [scan, closed]
  simp only [if_true, takeWhile_append_mark whole, dropWhile_append_mark whole, List.drop_one,
    List.tail_cons]

/-- A tag that says the same whatever text stands behind it. -/
theorem reads_tag {tag : List Char} (plain : '<' ∉ tag) (whole : '>' ∉ tag) (said : Option Mark)
    (marked : ∀ held, Piece.mark? ⟨tag, held⟩ = said) : Reads ('<' :: (tag ++ ['>'])) said.toList := by
  intro rest
  rw [List.cons_append, List.append_assoc, List.singleton_append, marksOf, scan_tag plain whole,
    List.filterMap_cons, marked]
  cases said <;> rfl

/-! ## Escaped texts -/

theorem lt_notMem_escapeText (text : String) : '<' ∉ (escapeText text).toList := by
  rw [toList_escapeText]
  exact notMem_flatMap_substitute (by decide) (by decide) text.toList

/-- The characters of a value that could end an attribute or a tag. -/
theorem notMem_escapeAttribute (value : String) :
    '<' ∉ (escapeAttribute value).toList ∧ '>' ∉ (escapeAttribute value).toList ∧
      '"' ∉ (escapeAttribute value).toList := by
  rw [toList_escapeAttribute]
  refine ⟨?_, ?_, ?_⟩ <;> exact notMem_flatMap_substitute (by decide) (by decide) value.toList

/-! ## Tags with an attribute -/

/-- The tag of an element with an attribute, without its brackets. -/
def markedTag (element : Element) (key : AttributeKey) (value : String) (closing : List Char) :
    List Char :=
  attributeStart element key ++ ((escapeAttribute value).toList ++ '"' :: closing)

theorem tagStart_eq (element : Element) (key : AttributeKey) :
    tagStart element key = '<' :: attributeStart element key := by
  simp [tagStart, attributeStart]

theorem charsOfLine_opening_eq (element : Element) (key : AttributeKey) (value : String) :
    charsOfLine (.opening element (some ⟨key, value⟩)) =
      ('<' :: (markedTag element key value [] ++ ['>'])) ++ ['\n'] := by
  simp [charsOfLine_opening, tagStart_eq, markedTag]

theorem charsOfLine_empty_eq (element : Element) (key : AttributeKey) (value : String) :
    charsOfLine (.empty element ⟨key, value⟩) =
      ('<' :: (markedTag element key value ['/'] ++ ['>'])) ++ ['\n'] := by
  simp [charsOfLine_empty, tagStart_eq, markedTag]

/-- The value of an attribute is read up to its closing quote. -/
theorem attribute?_markedTag (element : Element) (key : AttributeKey) (value : String)
    (closing : List Char) :
    attribute? element key (markedTag element key value closing) = some (escapeAttribute value) := by
  rw [attribute?, markedTag, if_pos (List.isPrefixOf_iff_prefix.mpr (List.prefix_append _ _)),
    List.drop_left, takeWhile_append_mark (notMem_escapeAttribute value).2.2, String.ofList_toList]

/-- No bracket stands in a tag with an attribute when none stands in its fixed parts. -/
theorem notMem_markedTag (element : Element) (key : AttributeKey) (closing : List Char)
    (fixed : '<' ∉ attributeStart element key ++ closing ∧ '>' ∉ attributeStart element key ++ closing)
    (value : String) :
    '<' ∉ markedTag element key value closing ∧ '>' ∉ markedTag element key value closing := by
  have clean := notMem_escapeAttribute value
  simp_all [markedTag]

/-! ## Lines -/

/-- A line feed says nothing. -/
theorem reads_lineFeed : Reads ['\n'] [] := reads_plain (by decide)

/-- A tag without an attribute. -/
theorem reads_bareTag {tag : List Char} (fixed : '<' ∉ tag ∧ '>' ∉ tag) (said : Option Mark)
    (marked : ∀ held, Piece.mark? ⟨tag, held⟩ = said) :
    Reads (('<' :: (tag ++ ['>'])) ++ ['\n']) said.toList := by
  simpa using (reads_tag fixed.1 fixed.2 said marked).append reads_lineFeed

theorem reads_location (name : String) :
    Reads (charsOfLine (.opening .location (some ⟨.id, name⟩))) [.location (escapeAttribute name)] := by
  have clean := notMem_markedTag .location .id [] (by decide) name
  rw [charsOfLine_opening_eq]
  refine reads_bareTag clean (some _) fun held => ?_
  simp only [Piece.mark?, attribute?_markedTag]
  rfl

theorem reads_reference (element : Element) (refers : element ∈ [.initial, .source, .target])
    (name : String) :
    Reads (charsOfLine (referenceLine element name)) [.reference element (escapeAttribute name)] := by
  have clean : '<' ∉ markedTag element .ref name ['/'] ∧ '>' ∉ markedTag element .ref name ['/'] := by
    refine notMem_markedTag element .ref ['/'] ?_ name
    revert refers
    cases element <;> decide
  rw [referenceLine, charsOfLine_empty_eq]
  refine reads_bareTag clean (some _) fun held => ?_
  simp only [List.mem_cons, List.not_mem_nil, or_false] at refers
  obtain rfl | rfl | rfl := refers <;> simp only [Piece.mark?, attribute?_markedTag] <;> rfl

/-- A label is read with its text, which ends at the end tag. -/
theorem reads_label (keyword text : String) :
    Reads (charsOfLine (labelLine keyword text)) [.label (escapeAttribute keyword) (escapeText text)] := by
  have clean := notMem_markedTag .label .kind [] (by decide) keyword
  have ended : Reads (('<' :: ("/label".toList ++ ['>'])) ++ ['\n']) [] :=
    reads_bareTag (by decide) none fun held => rfl
  have written : charsOfLine (labelLine keyword text) =
      '<' :: (markedTag .label .kind keyword [] ++ '>' :: ((escapeText text).toList ++
        (('<' :: ("/label".toList ++ ['>'])) ++ ['\n']))) := by
    rw [charsOfLine_labelLine, labelTag, toList_startTag, tagStart_eq]
    simp [markedTag, toList_endTag, Element.tag]
  intro rest
  have front : scan ((escapeText text).toList ++ (('<' :: ("/label".toList ++ ['>'])) ++ ['\n'] ++ rest)) =
      ((escapeText text).toList, (scan (('<' :: ("/label".toList ++ ['>'])) ++ ['\n'] ++ rest)).2) := by
    rw [scan_plain (lt_notMem_escapeText text)]
    simp [scan]
  have marked : Piece.mark? ⟨markedTag .label .kind keyword [], (escapeText text).toList⟩ =
      some (.label (escapeAttribute keyword) (escapeText text)) := by
    simp only [Piece.mark?, attribute?_markedTag, String.ofList_toList]
    rfl
  rw [written, List.cons_append, List.append_assoc, List.cons_append, List.append_assoc, marksOf,
    scan_tag clean.1 clean.2, front, List.filterMap_cons, marked]
  exact congrArg _ (ended rest)

theorem reads_opening (element : Element) (said : Option Mark)
    (marked : ∀ held, Piece.mark? ⟨element.tag.toList, held⟩ = said) :
    Reads (charsOfLine (.opening element none)) said.toList := by
  have written : charsOfLine (.opening element none) =
      ('<' :: (element.tag.toList ++ ['>'])) ++ ['\n'] := by
    simp [charsOfLine, Line.text, Line.startTag, Line.attributeText]
  rw [written]
  exact reads_bareTag (by cases element <;> decide) said marked

theorem reads_closing (element : Element) (said : Option Mark)
    (marked : ∀ held, Piece.mark? ⟨'/' :: element.tag.toList, held⟩ = said) :
    Reads (charsOfLine (.closing element)) said.toList := by
  have written : charsOfLine (.closing element) =
      ('<' :: (('/' :: element.tag.toList) ++ ['>'])) ++ ['\n'] := by
    simp [charsOfLine, Line.text, toList_endTag]
  rw [written]
  exact reads_bareTag (by cases element <;> decide) said marked

/-- An element that holds a text, of which neither tag says anything. -/
theorem reads_whole (element : Element) (silent : element ∈ [.name, .declaration]) (text : String) :
    Reads (charsOfLine (.whole element none text)) [] := by
  have written : charsOfLine (.whole element none text) =
      '<' :: (element.tag.toList ++ ['>']) ++ ((escapeText text).toList ++
        (('<' :: (('/' :: element.tag.toList) ++ ['>'])) ++ ['\n'])) := by
    simp [charsOfLine, Line.text, Line.startTag, Line.attributeText, toList_endTag]
  have opened : Reads ('<' :: (element.tag.toList ++ ['>'])) [] := by
    simp only [List.mem_cons, List.not_mem_nil, or_false] at silent
    obtain rfl | rfl := silent <;>
      exact reads_tag (by decide) (by decide) none fun held => rfl
  have closed : Reads (('<' :: (('/' :: element.tag.toList) ++ ['>'])) ++ ['\n']) [] := by
    simp only [List.mem_cons, List.not_mem_nil, or_false] at silent
    obtain rfl | rfl := silent <;> exact reads_bareTag (by decide) none fun held => rfl
  rw [written]
  exact opened.append ((reads_plain (lt_notMem_escapeText text)).append closed)

/-- A text that is one tag and belongs to no element: a declaration or an instruction. -/
structure IsAside (text : String) (tag : List Char) : Prop where
  written : text.toList = '<' :: (tag ++ ['>'])
  clean : '<' ∉ tag ∧ '>' ∉ tag
  apart : tag.head? = some '?' ∨ tag.head? = some '!'

theorem isAside_prolog : IsAside prolog prolog.toList.tail.dropLast := by
  have holds : prolog.toList = '<' :: (prolog.toList.tail.dropLast ++ ['>']) ∧
      ('<' ∉ prolog.toList.tail.dropLast ∧ '>' ∉ prolog.toList.tail.dropLast) ∧
      prolog.toList.tail.dropLast.head? = some '?' := by
    decide +kernel
  exact ⟨holds.1, holds.2.1, .inl holds.2.2⟩

theorem isAside_documentType : IsAside documentType documentType.toList.tail.dropLast := by
  have holds : documentType.toList = '<' :: (documentType.toList.tail.dropLast ++ ['>']) ∧
      ('<' ∉ documentType.toList.tail.dropLast ∧ '>' ∉ documentType.toList.tail.dropLast) ∧
      documentType.toList.tail.dropLast.head? = some '!' := by
    decide +kernel
  exact ⟨holds.1, holds.2.1, .inr holds.2.2⟩

/-- A declaration says nothing, because no element has such a name. -/
theorem reads_verbatim {text : String} {tag : List Char} (aside : IsAside text tag) :
    Reads (charsOfLine (.verbatim text)) [] := by
  have line : charsOfLine (.verbatim text) = ('<' :: (tag ++ ['>'])) ++ ['\n'] := by
    simp [charsOfLine, Line.text, aside.written]
  rw [line]
  refine reads_bareTag aside.clean none fun held => ?_
  have apart := aside.apart
  cases tag with
  | nil => simp at apart
  | cons first rest => obtain starts | starts := apart <;> cases starts <;> rfl

theorem reads_content (text : String) : Reads (charsOfLine (.content text)) [] := by
  refine reads_plain ?_
  have clean := lt_notMem_escapeText text
  simpa [charsOfLine, Line.text] using clean

/-! ## Views -/

/-- What a document says of a location. -/
def LocationView.marks (location : LocationView) : List Mark :=
  .location (escapeAttribute location.name) ::
    (location.comment.map fun text => Mark.label commentKeyword (escapeText text)).toList

/-- What a document says of an edge between the tags of its transition. -/
def EdgeView.marks (edge : EdgeView) : List Mark :=
  [.reference .source (escapeAttribute edge.source), .reference .target (escapeAttribute edge.target)]
    ++ (edge.guard.map fun text => Mark.label Role.guard.keyword (escapeText text)).toList
    ++ (edge.update.map fun text => Mark.label Role.update.keyword (escapeText text)).toList

/-- What a document says of a template between its tags. -/
def TemplateView.marks (template : TemplateView) : List Mark :=
  template.locations.flatMap LocationView.marks
    ++ [.reference .initial (escapeAttribute template.initial)]
    ++ template.edges.flatMap fun edge => .transitionStart :: edge.marks ++ [.transitionEnd]

theorem reads_labelLines (keyword : String) (fixed : escapeAttribute keyword = keyword)
    (held : Option String) :
    Reads (charsOfLines (labelLines keyword held))
      (held.map fun text => Mark.label keyword (escapeText text)).toList := by
  cases held with
  | none => exact .nil
  | some text =>
    have read := reads_label keyword text
    rw [fixed] at read
    simpa [labelLines, charsOfLines_cons, charsOfLines_nil] using read

theorem LocationView.reads (location : LocationView) :
    Reads (charsOfLines location.lines) location.marks := by
  have closed : Reads (charsOfLine (.closing .location)) [] :=
    reads_closing .location none fun _ => rfl
  have read := (reads_location location.name).append ((reads_whole .name (by decide) location.name).append
    ((reads_labelLines commentKeyword (by decide) location.comment).append closed))
  simpa [LocationView.lines, LocationView.marks, charsOfLines_append, charsOfLines_cons,
    charsOfLines_nil] using read

theorem EdgeView.reads (edge : EdgeView) :
    Reads (charsOfLines edge.lines) (.transitionStart :: edge.marks ++ [.transitionEnd]) := by
  have opened : Reads (charsOfLine (.opening .transition none)) [.transitionStart] :=
    reads_opening .transition (some _) fun _ => rfl
  have closed : Reads (charsOfLine (.closing .transition)) [.transitionEnd] :=
    reads_closing .transition (some _) fun _ => rfl
  have read := opened.append ((reads_reference .source (by decide) edge.source).append
    ((reads_reference .target (by decide) edge.target).append
      ((reads_labelLines Role.guard.keyword (by decide) edge.guard).append
        ((reads_labelLines Role.update.keyword (by decide) edge.update).append closed))))
  simpa [EdgeView.lines, EdgeView.marks, charsOfLines_append, charsOfLines_cons, charsOfLines_nil]
    using read

theorem reads_blockLines (held : Option String) : Reads (charsOfLines (blockLines held)) [] := by
  cases held with
  | none => simpa [blockLines, charsOfLines_cons, charsOfLines_nil] using
      reads_whole .declaration (by decide) ""
  | some body =>
    have opened : Reads (charsOfLine (.opening .declaration none)) [] :=
      reads_opening .declaration none fun _ => rfl
    have closed : Reads (charsOfLine (.closing .declaration)) [] :=
      reads_closing .declaration none fun _ => rfl
    simpa [blockLines, charsOfLines_cons, charsOfLines_nil] using
      opened.append ((reads_content body).append closed)

theorem TemplateView.reads (template : TemplateView) :
    Reads (charsOfLines template.lines) (.templateStart :: template.marks ++ [.templateEnd]) := by
  have opened : Reads (charsOfLine (.opening .template none)) [.templateStart] :=
    reads_opening .template (some _) fun _ => rfl
  have closed : Reads (charsOfLine (.closing .template)) [.templateEnd] :=
    reads_closing .template (some _) fun _ => rfl
  have read := opened.append ((reads_whole .name (by decide) template.name).append
    ((reads_blockLines template.declarations).append
      ((Reads.flatMap LocationView.reads template.locations).append
        ((reads_reference .initial (by decide) template.initial).append
          ((Reads.flatMap EdgeView.reads template.edges).append closed)))))
  simpa [TemplateView.lines, TemplateView.marks, charsOfLines_append, charsOfLines_cons,
    charsOfLines_nil, charsOfLines_flatMap] using read

/-- The system block and the end of the document say nothing. -/
theorem reads_startedLines (names : List String) : Reads (charsOfLines (startedLines names)) [] := by
  have contents : ∀ texts : List String, Reads (charsOfLines (texts.map Line.content)) [] := by
    intro texts
    induction texts with
    | nil => exact .nil
    | cons text rest inductionHypothesis => exact (reads_content text).append inductionHypothesis
  have closed : Reads (charsOfLines [.closing .system, .closing .network]) [] := by
    have system := reads_closing .system none fun _ => rfl
    have network := reads_closing .network none fun _ => rfl
    simpa [charsOfLines_cons, charsOfLines_nil] using system.append network
  let started := names.zipIdx.map fun numbered => (processName (numbered.2 + 1), numbered.1)
  have read := (contents (started.map processText
    ++ ["system ", ", ".intercalate (started.map Prod.fst) ++ ";"])).append closed
  simpa [startedLines, started, charsOfLines_append, charsOfLines_cons, charsOfLines_nil,
    Function.comp_def] using read

/-- What the document for a view says, template by template. -/
theorem marks_textOfLines (view : View) :
    marks (textOfLines view.lines) =
      view.templates.flatMap fun template => .templateStart :: template.marks ++ [.templateEnd] := by
  have header : Reads (charsOfLines [.verbatim prolog, .verbatim documentType, .opening .network none])
      [] := by
    have third := reads_opening .network none fun _ => rfl
    simpa [charsOfLines_cons, charsOfLines_nil] using
      (reads_verbatim isAside_prolog).append ((reads_verbatim isAside_documentType).append third)
  have system : Reads (charsOfLine (.opening .system none)) [] :=
    reads_opening .system none fun _ => rfl
  have declarations : Reads (charsOfLines (view.systemDeclarations.map Line.content).toList) [] := by
    cases view.systemDeclarations with
    | none => exact .nil
    | some body => simpa [charsOfLines_cons, charsOfLines_nil] using reads_content body
  have read := header.append ((reads_blockLines view.globalDeclarations).append
    ((Reads.flatMap TemplateView.reads view.templates).append (system.append (declarations.append
      (reads_startedLines (view.templates.map TemplateView.name))))))
  have whole := read []
  simpa [marks, toList_textOfLines, View.lines, charsOfLines_append, charsOfLines_cons,
    charsOfLines_nil, charsOfLines_flatMap, marksOf, scan] using whole

/-! ## Parts of a document -/

/-- The parts of a row of marks that start behind an opening mark and end at the next closing one. -/
def enclosed (opens closes : Mark) : List Mark → List (List Mark)
  | [] => []
  | mark :: rest =>
    if mark = opens then rest.takeWhile (· ≠ closes) :: enclosed opens closes rest
    else enclosed opens closes rest

/-- What a document says in each of its templates. -/
def blocks (document : String) : List (List Mark) :=
  enclosed .templateStart .templateEnd (marks document)

/-- What a row of marks says in each of its transitions. -/
def transitions (row : List Mark) : List (List Mark) :=
  enclosed .transitionStart .transitionEnd row

section Enclosed

variable {opens closes : Mark}

theorem enclosed_append_of_notMem {row : List Mark} (absent : opens ∉ row) (rest : List Mark) :
    enclosed opens closes (row ++ rest) = enclosed opens closes rest := by
  induction row with
  | nil => rfl
  | cons mark others inductionHypothesis =>
    rw [List.mem_cons, not_or] at absent
    rw [List.cons_append, enclosed, if_neg (Ne.symm absent.1), inductionHypothesis absent.2]

/-- The parts between two marks are found again. -/
theorem enclosed_flatMap {α : Type} {inner : α → List Mark} (different : opens ≠ closes)
    (unopened : ∀ held, opens ∉ inner held) (unclosed : ∀ held, closes ∉ inner held)
    (members : List α) :
    enclosed opens closes (members.flatMap fun held => opens :: inner held ++ [closes]) =
      members.map inner := by
  induction members with
  | nil => rfl
  | cons first rest inductionHypothesis =>
    rw [List.flatMap_cons, List.cons_append, List.cons_append, List.append_assoc,
      List.singleton_append, enclosed, if_pos rfl, takeWhile_append_mark (unclosed first),
      enclosed_append_of_notMem (unopened first), enclosed, if_neg different.symm,
      inductionHypothesis, List.map_cons]

end Enclosed

section Kept

variable {α β : Type} {keep : Mark → Option β} {inner : α → List Mark}

/-- Of parts that say nothing of a kind, nothing of it is kept. -/
theorem filterMap_flatMap_of_silent (silent : ∀ held, (inner held).filterMap keep = [])
    (members : List α) : (members.flatMap inner).filterMap keep = [] := by
  rw [List.filterMap_flatMap]
  exact List.flatMap_eq_nil_iff.mpr fun held _ => silent held

/-- Of parts that say one thing of a kind each, these are kept in order. -/
theorem filterMap_flatMap_of_one {said : α → β} (one : ∀ held, (inner held).filterMap keep = [said held])
    (members : List α) : (members.flatMap inner).filterMap keep = members.map said := by
  rw [List.filterMap_flatMap, List.map_eq_flatMap]
  exact congrArg (members.flatMap ·) (funext one)

end Kept

/-- The templates of a document are those of its view. -/
theorem blocks_textOfLines (view : View) :
    blocks (textOfLines view.lines) = view.templates.map TemplateView.marks := by
  rw [blocks, marks_textOfLines]
  apply enclosed_flatMap (by decide) <;> intro template <;>
    simp [TemplateView.marks, LocationView.marks, EdgeView.marks]

/-- The transitions of a template are its edges. -/
theorem TemplateView.transitions_marks (template : TemplateView) :
    transitions template.marks = template.edges.map EdgeView.marks := by
  have fore : Mark.transitionStart ∉ template.locations.flatMap LocationView.marks
      ++ [.reference .initial (escapeAttribute template.initial)] := by
    simp [LocationView.marks]
  rw [transitions, TemplateView.marks, enclosed_append_of_notMem fore]
  apply enclosed_flatMap (by decide) <;> intro edge <;> simp [EdgeView.marks]

end TraceAutomata.Xml
