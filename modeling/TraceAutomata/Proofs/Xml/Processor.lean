import Mathlib.Data.List.TakeWhile
import TraceAutomata.Proofs.Text.LineEnds
import TraceAutomata.Proofs.Xml.Marks

/-!
# Reading a document as XML

What a processor of XML 1.0 makes of a document without comments and unparsed sections. It refuses a document
with a character that no document may hold, unifies the line ends, and reports the tags in order, each with its
attributes and with the text up to the next tag. In texts and values every reference is taken for its character;
in values, tabs and line feeds become blanks first, as for attributes of no declared type. Declarations and
instructions are passed over. A reference that is not predefined or an end tag that ends no open element is an
error.

The reader knows nothing of how a document was written. `Yields` says which tags a row of characters is written for,
and the lemmas of the last section say so of single elements.
-/

namespace TraceAutomata.Xml

/-! ## The processor -/

/-- Whether a document may hold the character of a code point. No surrogate is one. -/
def isXmlCodePoint (codePoint : Nat) : Bool :=
  codePoint == 0x09 || codePoint == 0x0A || codePoint == 0x0D
    || (0x20 ≤ codePoint && codePoint ≤ 0xD7FF) || (0xE000 ≤ codePoint && codePoint ≤ 0xFFFD)
    || 0x10000 ≤ codePoint

/-- Whether a document may hold what stands at a place of a text. -/
def isXmlChar [Runtime] (character : Char) : Bool :=
  isXmlCodePoint (Runtime.codePoint character)

/-- The reference that stands for the apostrophe. -/
def apostropheReference : List Char := ['&', 'a', 'p', 'o', 's', ';']

/-- The predefined references, with the characters they stand for. -/
def predefined : List (List Char × Char) :=
  [(ampersandReference, '&'), (lessReference, '<'), (greaterReference, '>'), (quoteReference, '"'),
    (apostropheReference, Char.ofNat 39)]

/-- Take each reference for the character it stands for, unless an ampersand starts none. The number counts the
characters that still belong to the reference which was read last. -/
def expand? : Nat → List Char → Option (List Char)
  | _, [] => some []
  | skipped + 1, _ :: rest => expand? skipped rest
  | 0, character :: rest =>
    if character = '&' then
      match predefined.find? fun reference => reference.1.isPrefixOf (character :: rest) with
      | some (written, meant) => (expand? (written.length - 1) rest).map (meant :: ·)
      | none => none
    else (expand? 0 rest).map (character :: ·)

/-- White space in the value of an attribute counts as a blank. -/
def blankFor (character : Char) : Char :=
  if character = '\t' ∨ character = '\n' ∨ character = '\r' then ' ' else character

mutual

/-- The attributes in the rest of a tag, as they are written. What has been read of the next key is held in
reverse. -/
def attributesFrom (read : List Char) : List Char → List (List Char × List Char)
  | [] => []
  | character :: rest =>
    if character = '"' then valuesFrom read.reverse [] rest
    else if character = ' ' ∨ character = '=' then attributesFrom read rest
    else attributesFrom (character :: read) rest

/-- The attributes in the rest of a tag behind the quote that opens the value for a key. -/
def valuesFrom (key read : List Char) : List Char → List (List Char × List Char)
  | [] => []
  | character :: rest =>
    if character = '"' then (key, read.reverse) :: attributesFrom [] rest
    else valuesFrom key (character :: read) rest

end

/-- A key with the value that is meant. -/
def readAttribute? (written : List Char × List Char) : Option (String × String) := do
  let value ← expand? 0 (written.2.map blankFor)
  return (String.ofList written.1, String.ofList value)

/-- How a tag stands to its element. -/
inductive TagKind
  | start
  | finish
  | empty
  deriving DecidableEq, Repr

/-- A tag as it is reported, with the text up to the next tag. -/
structure Reported where
  kind : TagKind
  name : String
  attributes : List (String × String) := []
  text : String := "\n"
  deriving DecidableEq, Repr

namespace Piece

/-- A piece with unified line ends. -/
def unified (piece : Piece) : Piece :=
  ⟨Text.unifyLineEnds piece.tag, Text.unifyLineEnds piece.held⟩

/-- Whether the piece belongs to an element, and is no declaration and no instruction. -/
def isElement (piece : Piece) : Bool :=
  piece.tag.head? != some '?' && piece.tag.head? != some '!'

/-- How the tag stands to its element. -/
def kind (piece : Piece) : TagKind :=
  if piece.tag.head? = some '/' then .finish else if piece.tag.getLast? = some '/' then .empty else .start

/-- The tag from the name on. -/
def named (piece : Piece) : List Char :=
  if piece.tag.head? = some '/' then piece.tag.tail else piece.tag

/-- Whether a character belongs to the name of an element. -/
def isNameChar (character : Char) : Bool :=
  character != ' ' && character != '/'

/-- The report of a piece, unless a reference is unknown. -/
def report? (piece : Piece) : Option Reported := do
  let attributes ← (attributesFrom [] (piece.named.dropWhile isNameChar)).mapM readAttribute?
  let text ← expand? 0 piece.held
  return ⟨piece.kind, String.ofList (piece.named.takeWhile isNameChar), attributes, String.ofList text⟩

end Piece

/-- The reports of pieces whose line ends are not unified yet. -/
def reportsOf? (pieces : List Piece) : Option (List Reported) :=
  ((pieces.map Piece.unified).filter Piece.isElement).mapM Piece.report?

/-- Whether every end tag ends the element that was opened last, and all elements are ended. -/
def nested : List String → List Reported → Bool
  | opened, [] => opened.isEmpty
  | opened, reported :: rest =>
    match reported.kind, opened with
    | .start, opened => nested (reported.name :: opened) rest
    | .empty, opened => nested opened rest
    | .finish, [] => false
    | .finish, last :: others => last == reported.name && nested others rest

/-- What a processor reports of a document that it does not refuse. -/
def process? [Runtime] (document : String) : Option (List Reported) := do
  guard (document.toList.all isXmlChar)
  let pieces := (scan (Text.unifyLineEnds document.toList)).2
  let reports ← (pieces.filter Piece.isElement).mapM Piece.report?
  guard (nested [] reports)
  return reports

/-! ## Line ends of pieces -/

section LineEnds

variable {characters : List Char} {mark : Char} (noReturn : mark ≠ '\r') (noFeed : mark ≠ '\n')
include noReturn noFeed

/-- Line ends are unified on both sides of the first mark. -/
theorem cut_unifyLineEnds :
    (Text.unifyLineEnds characters).takeWhile (· ≠ mark) =
        Text.unifyLineEnds (characters.takeWhile (· ≠ mark)) ∧
      ((Text.unifyLineEnds characters).dropWhile (· ≠ mark)).drop 1 =
        Text.unifyLineEnds ((characters.dropWhile (· ≠ mark)).drop 1) := by
  have same : mark ∈ Text.unifyLineEnds characters ↔ mark ∈ characters :=
    Text.mem_unifyLineEnds_iff noReturn noFeed
  by_cases present : mark ∈ characters
  · obtain ⟨front, back, rfl, clean⟩ := List.eq_append_cons_of_mem present
    have unifiedClean : mark ∉ Text.unifyLineEnds front := by
      rwa [Text.mem_unifyLineEnds_iff noReturn noFeed]
    rw [Text.unifyLineEnds_append_mark noReturn noFeed, takeWhile_append_mark unifiedClean,
      dropWhile_append_mark unifiedClean, takeWhile_append_mark clean, dropWhile_append_mark clean]
    exact ⟨rfl, rfl⟩
  · have absent : mark ∉ Text.unifyLineEnds characters := mt same.mp present
    have others {text : List Char} (notIn : mark ∉ text) :
        text.takeWhile (· ≠ mark) = text ∧ text.dropWhile (· ≠ mark) = [] := by
      rw [List.takeWhile_eq_self_iff, List.dropWhile_eq_nil_iff]
      simp only [decide_eq_true_eq, and_self]
      exact fun character among same => notIn (same ▸ among)
    rw [(others absent).1, (others absent).2, (others present).1, (others present).2]
    exact ⟨rfl, rfl⟩

end LineEnds

/-- The text in front of the first tag starts as the whole does. -/
theorem head?_scan {characters : List Char} {first : Char} (starts : (scan characters).1.head? = some first) :
    characters.head? = some first := by
  cases characters with
  | nil => cases starts
  | cons character rest =>
    rw [scan] at starts
    by_cases opens : character = '<'
    · simp [opens] at starts
    · simpa [opens] using starts

/-- Line ends may be unified before the pieces are told apart, or after. -/
theorem scan_unifyLineEnds (characters : List Char) : scan (Text.unifyLineEnds characters) =
    (Text.unifyLineEnds (scan characters).1, (scan characters).2.map Piece.unified) := by
  fun_induction Text.unifyLineEnds characters with
  | case1 => rfl
  | case2 following inductionHypothesis => simp [scan, inductionHypothesis, Text.unifyLineEnds]
  | case3 following alone inductionHypothesis =>
    have behind : (scan following).1.head? ≠ some '\n' := by
      intro starts
      cases following with
      | nil => cases starts
      | cons first others => exact alone others (by rw [Option.some.inj (head?_scan starts)])
    simp [scan, inductionHypothesis, Text.unifyLineEnds_return behind]
  | case4 character following _ other inductionHypothesis =>
    by_cases opens : character = '<'
    · have cut := @cut_unifyLineEnds (scan following).1 '>' (by decide) (by decide)
      simp only [scan, inductionHypothesis, opens, if_true, cut, List.map_cons]
      rfl
    · simp [scan, inductionHypothesis, opens, Text.unifyLineEnds_cons other]

/-! ## Escaped texts -/

/-- What an element's text is read as: its line ends are unified. -/
def readText (text : String) : String :=
  String.ofList (Text.unifyLineEnds text.toList)

/-- What the value of an attribute is read as: its line ends are unified, and white space becomes blanks. -/
def readValue (value : String) : String :=
  String.ofList ((Text.unifyLineEnds value.toList).map blankFor)

/-- What a tag is read as, with the text behind it. -/
def Reported.read (reported : Reported) : Reported :=
  { reported with
    attributes := reported.attributes.map fun given => (given.1, readValue given.2)
    text := readText reported.text }

/-- Whether a document may hold the values and the text. -/
def Reported.isLegal [Runtime] (reported : Reported) : Bool :=
  (reported.attributes.all fun given => given.2.toList.all isXmlChar) && reported.text.toList.all isXmlChar

/-- A value that is one line without tabs. -/
def Unbroken (value : String) : Prop :=
  '\t' ∉ value.toList ∧ '\n' ∉ value.toList ∧ '\r' ∉ value.toList

section Unchanged

variable {text : String}

/-- A list stays as it is exactly when each member does. -/
theorem map_eq_self_iff {α : Type} {change : α → α} {members : List α} :
    members.map change = members ↔ ∀ member ∈ members, change member = member := by
  simpa using List.map_inj_left (l := members) (f := change) (g := id)

theorem map_blankFor_eq_self_iff {characters : List Char} :
    characters.map blankFor = characters ↔ '\t' ∉ characters ∧ '\n' ∉ characters ∧ '\r' ∉ characters := by
  have kept (character : Char) :
      blankFor character = character ↔ character ≠ '\t' ∧ character ≠ '\n' ∧ character ≠ '\r' := by
    unfold blankFor
    split_ifs with white
    · obtain rfl | rfl | rfl := white <;> decide
    · simpa using white
  simp only [map_eq_self_iff, kept, ne_eq, imp_and, forall_and, List.forall_mem_ne']

/-- A text is read as it is exactly when it has no carriage return. -/
theorem readText_eq_self_iff : readText text = text ↔ '\r' ∉ text.toList := by
  rw [readText, ← String.toList_inj, String.toList_ofList, Text.unifyLineEnds_eq_self_iff]

/-- A value is read as the same text would be exactly when it is unbroken. -/
theorem readValue_eq_readText_iff : readValue text = readText text ↔ Unbroken text := by
  have absent := Text.return_notMem_unifyLineEnds text.toList
  rw [readValue, readText, ← String.toList_inj, String.toList_ofList, String.toList_ofList,
    map_blankFor_eq_self_iff, Text.mem_unifyLineEnds_iff (by decide) (by decide), Text.feed_mem_unifyLineEnds_iff,
    not_or, Unbroken]
  simp only [absent, not_false_eq_true, and_true]

/-- A value is read as it is exactly when it is unbroken. -/
theorem readValue_eq_self_iff : readValue text = text ↔ Unbroken text := by
  constructor
  · intro same
    have blank (character : Char) :
        blankFor character ≠ '\t' ∧ blankFor character ≠ '\n' ∧ blankFor character ≠ '\r' := by
      unfold blankFor
      split_ifs with white
      · decide
      · simpa using white
    rw [← same, readValue, Unbroken]
    simp [blank]
  · intro unbroken
    rw [readValue_eq_readText_iff.mpr unbroken, readText_eq_self_iff]
    exact unbroken.2.2

/-- A tag is read as it is when its values are unbroken and the text behind it has no carriage return. -/
theorem Reported.read_eq_self_iff {reported : Reported} :
    reported.read = reported ↔
      (∀ given ∈ reported.attributes, Unbroken given.2) ∧ '\r' ∉ reported.text.toList := by
  obtain ⟨kind, name, attributes, text⟩ := reported
  simp only [Reported.read, Reported.mk.injEq, true_and, map_eq_self_iff, Prod.ext_iff, readValue_eq_self_iff,
    readText_eq_self_iff]

end Unchanged

section Escaped

variable {write : Char → List Char}

/-- A writer of characters keeps line ends apart from all else. -/
structure KeepsLineEnds (write : Char → List Char) : Prop where
  carriageReturn : write '\r' = ['\r']
  lineFeed : write '\n' = ['\n']
  others : ∀ character, character ≠ '\r' → '\r' ∉ write character
  starts : ∀ character, character ≠ '\n' → ∀ rest, (write character ++ rest).head? ≠ some '\n'

/-- Line ends may be unified before the characters are written, or after. -/
theorem unifyLineEnds_flatMap (keeps : KeepsLineEnds write) (text : List Char) :
    Text.unifyLineEnds (text.flatMap write) = (Text.unifyLineEnds text).flatMap write := by
  fun_induction Text.unifyLineEnds text with
  | case1 => rfl
  | case2 following inductionHypothesis =>
    simp [keeps.carriageReturn, keeps.lineFeed, Text.unifyLineEnds, inductionHypothesis]
  | case3 following alone inductionHypothesis =>
    have behind : (following.flatMap write).head? ≠ some '\n' := by
      cases following with
      | nil => simp
      | cons first others =>
        have other : first ≠ '\n' := fun same => alone others (by rw [same])
        exact keeps.starts first other _
    rw [List.flatMap_cons, keeps.carriageReturn, List.singleton_append, Text.unifyLineEnds_return behind,
      inductionHypothesis, List.flatMap_cons, keeps.lineFeed, List.singleton_append]
  | case4 character following _ other inductionHypothesis =>
    rw [List.flatMap_cons, Text.unifyLineEnds_append (keeps.others character other), inductionHypothesis,
      List.flatMap_cons]

theorem keepsLineEnds_escapeChar : KeepsLineEnds escapeChar := by
  refine ⟨by decide, by decide, ?_, ?_⟩
  · intro character other
    unfold escapeChar ampersandReference greaterReference lessReference
    split_ifs <;> simp_all [eq_comm]
  · intro character other rest
    unfold escapeChar ampersandReference greaterReference lessReference
    split_ifs <;> simp_all

theorem keepsLineEnds_escapeAttributeChar : KeepsLineEnds escapeAttributeChar := by
  refine ⟨by decide, by decide, ?_, ?_⟩
  · intro character other
    unfold escapeAttributeChar
    split_ifs
    · decide
    · exact keepsLineEnds_escapeChar.others character other
  · intro character other rest
    unfold escapeAttributeChar
    split_ifs
    · simp [quoteReference]
    · exact keepsLineEnds_escapeChar.starts character other rest

/-- A writer of characters writes each one so that it is read as itself. -/
def Expands (write : Char → List Char) : Prop :=
  ∀ character rest, expand? 0 (write character ++ rest) = (expand? 0 rest).map (character :: ·)

theorem expands_escapeChar : Expands escapeChar := by
  intro character rest
  unfold escapeChar
  split_ifs with ampersand greater less
  · rw [ampersand]
    rfl
  · rw [greater]
    rfl
  · rw [less]
    rfl
  · rw [List.singleton_append, expand?, if_neg ampersand]

theorem expands_escapeAttributeChar : Expands escapeAttributeChar := by
  intro character rest
  unfold escapeAttributeChar
  split_ifs with quote
  · rw [quote]
    rfl
  · exact expands_escapeChar character rest

/-- A text that was written character by character is read as itself. -/
theorem Expands.flatMap (expands : Expands write) (text : List Char) :
    expand? 0 (text.flatMap write) = some text := by
  induction text with
  | nil => rfl
  | cons character rest inductionHypothesis =>
    rw [List.flatMap_cons, expands, inductionHypothesis]
    rfl

theorem expand?_escapeText (text : String) :
    expand? 0 (Text.unifyLineEnds (escapeText text).toList) = some (readText text).toList := by
  simp only [escapeText, readText, String.toList_ofList, escapeChars_eq_flatMap,
    unifyLineEnds_flatMap keepsLineEnds_escapeChar, expands_escapeChar.flatMap]

/-- Characters that are written in every document are legal in all runtimes. -/
theorem all_isXmlChar_of_assigned [Runtime] {characters : List Char}
    (assigned : (characters.all fun character =>
      character.toNat < 0x40000 && isXmlCodePoint character.toNat) = true) :
    characters.all isXmlChar = true := by
  simp only [List.all_eq_true, Bool.and_eq_true, decide_eq_true_eq] at assigned ⊢
  intro character among
  rw [isXmlChar, Runtime.codePoint_eq_toNat (assigned character among).1, (assigned character among).2]

theorem isXmlChar_of_assigned [Runtime] {character : Char}
    (assigned : (character.toNat < 0x40000 && isXmlCodePoint character.toNat) = true) :
    isXmlChar character = true := by
  simpa using all_isXmlChar_of_assigned (by simpa using assigned : ([character].all _) = true)

/-- References hold no forbidden character, and stand for none. -/
theorem all_isXmlChar_escapeChar [Runtime] (character : Char) :
    (escapeChar character).all isXmlChar = isXmlChar character := by
  unfold escapeChar
  split_ifs with ampersand greater less
  · rw [ampersand, all_isXmlChar_of_assigned (by decide), isXmlChar_of_assigned (by decide)]
  · rw [greater, all_isXmlChar_of_assigned (by decide), isXmlChar_of_assigned (by decide)]
  · rw [less, all_isXmlChar_of_assigned (by decide), isXmlChar_of_assigned (by decide)]
  · exact Bool.and_true _

theorem all_isXmlChar_escapeAttributeChar [Runtime] (character : Char) :
    (escapeAttributeChar character).all isXmlChar = isXmlChar character := by
  unfold escapeAttributeChar
  split_ifs with quote
  · rw [quote, all_isXmlChar_of_assigned (by decide), isXmlChar_of_assigned (by decide)]
  · exact all_isXmlChar_escapeChar character

theorem all_isXmlChar_escapeText [Runtime] (text : String) :
    (escapeText text).toList.all isXmlChar = text.toList.all isXmlChar := by
  rw [escapeText, String.toList_ofList, escapeChars_eq_flatMap, List.all_flatMap]
  exact congrArg text.toList.all (funext all_isXmlChar_escapeChar)

theorem all_isXmlChar_escapeAttribute [Runtime] (value : String) :
    (escapeAttribute value).toList.all isXmlChar = value.toList.all isXmlChar := by
  rw [escapeAttribute, String.toList_ofList, escapeAttributeChars_eq_flatMap, List.all_flatMap]
  exact congrArg value.toList.all (funext all_isXmlChar_escapeAttributeChar)

/-- Blanks take the place of white space before the value is written, or after. -/
theorem map_blankFor_escapeAttributeChar (character : Char) :
    (escapeAttributeChar character).map blankFor = escapeAttributeChar (blankFor character) := by
  by_cases white : character = '\t' ∨ character = '\n' ∨ character = '\r'
  · obtain rfl | rfl | rfl := white <;> decide
  · have kept : blankFor character = character := if_neg white
    rw [kept]
    unfold escapeAttributeChar escapeChar
    split_ifs
    · decide
    · decide
    · decide
    · decide
    · rw [List.map_singleton, kept]

theorem expand?_escapeAttribute (value : String) :
    expand? 0 ((Text.unifyLineEnds (escapeAttribute value).toList).map blankFor) =
      some (readValue value).toList := by
  simp only [escapeAttribute, readValue, String.toList_ofList, escapeAttributeChars_eq_flatMap,
    unifyLineEnds_flatMap keepsLineEnds_escapeAttributeChar, List.map_flatMap, map_blankFor_escapeAttributeChar]
  rw [← List.flatMap_map, expands_escapeAttributeChar.flatMap]

end Escaped

/-! ## Tags -/

section Tags

theorem valuesFrom_append {value : List Char} (unquoted : '"' ∉ value) (key read rest : List Char) :
    valuesFrom key read (value ++ '"' :: rest) = (key, read.reverse ++ value) :: attributesFrom [] rest := by
  induction value generalizing read with
  | nil => simp [valuesFrom]
  | cons character others inductionHypothesis =>
    rw [List.mem_cons, not_or] at unquoted
    rw [List.cons_append, valuesFrom, if_neg (Ne.symm unquoted.1), inductionHypothesis unquoted.2]
    simp

theorem attributesFrom_written (key : AttributeKey) {value : List Char} (unquoted : '"' ∉ value)
    (rest : List Char) :
    attributesFrom [] (' ' :: (key.text.toList ++ '=' :: '"' :: (value ++ '"' :: rest))) =
      (key.text.toList, value) :: attributesFrom [] rest := by
  have opened : attributesFrom [] (' ' :: (key.text.toList ++ '=' :: '"' :: (value ++ '"' :: rest))) =
      valuesFrom key.text.toList [] (value ++ '"' :: rest) := by
    cases key <;> rfl
  rw [opened, valuesFrom_append unquoted]
  rfl

/-- What is written of a tag behind the name of its element, up to the bracket. -/
def afterName (mark : Option Attribute) (closing : List Char) : List Char :=
  (Line.attributeText mark).toList ++ closing

/-- The attributes of a tag, as they are meant. -/
def meantAttributes (mark : Option Attribute) : List (String × String) :=
  (mark.map fun attributed => (attributed.key.text, attributed.value)).toList

theorem unifyLineEnds_afterName (key : AttributeKey) (value : String) {closing : List Char}
    (clean : '\r' ∉ closing) : Text.unifyLineEnds (afterName (some ⟨key, value⟩) closing) =
      ' ' :: (key.text.toList ++ '=' :: '"' ::
        (Text.unifyLineEnds (escapeAttribute value).toList ++ '"' :: closing)) := by
  have written : afterName (some ⟨key, value⟩) closing =
      (' ' :: (key.text.toList ++ ['=', '"'])) ++ ((escapeAttribute value).toList ++ '"' :: closing) := by
    simp [afterName, Line.attributeText, Attribute.text]
  have fixed : '\r' ∉ ' ' :: (key.text.toList ++ ['=', '"']) := by cases key <;> decide
  rw [written, Text.unifyLineEnds_append fixed, Text.unifyLineEnds_append_mark (by decide) (by decide),
    Text.unifyLineEnds_eq_self_iff.mpr clean]
  simp

theorem attributesFrom_afterName (mark : Option Attribute) {closing : List Char}
    (closes : closing = [] ∨ closing = ['/']) :
    (attributesFrom [] (Text.unifyLineEnds (afterName mark closing))).mapM readAttribute? =
      some ((meantAttributes mark).map fun given => (given.1, readValue given.2)) := by
  have ended : attributesFrom [] closing = [] ∧ '\r' ∉ closing := by
    obtain rfl | rfl := closes <;> exact ⟨rfl, by decide⟩
  cases mark with
  | none =>
    have written : afterName none closing = closing := rfl
    rw [written, Text.unifyLineEnds_eq_self_iff.mpr ended.2, ended.1]
    rfl
  | some attributed =>
    obtain ⟨key, value⟩ := attributed
    have unquoted : '"' ∉ Text.unifyLineEnds (escapeAttribute value).toList := by
      rw [Text.mem_unifyLineEnds_iff (by decide) (by decide)]
      exact (notMem_escapeAttribute value).2.2
    rw [unifyLineEnds_afterName key value ended.2, attributesFrom_written key unquoted, ended.1]
    simp [readAttribute?, expand?_escapeAttribute, meantAttributes]

/-- The name of an element ends where the rest of its tag starts. -/
theorem cut_afterName (mark : Option Attribute) {closing : List Char} (closes : closing = [] ∨ closing = ['/']) :
    (Text.unifyLineEnds (afterName mark closing)).takeWhile Piece.isNameChar = [] ∧
      (Text.unifyLineEnds (afterName mark closing)).dropWhile Piece.isNameChar =
        Text.unifyLineEnds (afterName mark closing) := by
  cases mark with
  | none => obtain rfl | rfl := closes <;> exact ⟨rfl, rfl⟩
  | some attributed =>
    have clean : '\r' ∉ closing := by obtain rfl | rfl := closes <;> decide
    rw [unifyLineEnds_afterName attributed.key attributed.value clean]
    exact ⟨rfl, rfl⟩

variable (element : Element)

theorem isNameChar_tag : ∀ character ∈ element.tag.toList, Piece.isNameChar character = true := by
  have all : element.tag.toList.all Piece.isNameChar = true := by cases element <;> decide
  exact List.all_eq_true.mp all

theorem head?_tag :
    ∃ first, element.tag.toList.head? = some first ∧ first ≠ '/' ∧ first ≠ '?' ∧ first ≠ '!' := by
  cases element <;> exact ⟨_, rfl, by decide⟩

theorem all_isXmlChar_tag [Runtime] (mark : Option Attribute) {closing : List Char}
    (closes : closing = [] ∨ closing = ['/']) :
    (element.tag.toList ++ afterName mark closing).all isXmlChar =
      (meantAttributes mark).all fun given => given.2.toList.all isXmlChar := by
  have name : element.tag.toList.all isXmlChar = true :=
    all_isXmlChar_of_assigned (by cases element <;> decide)
  have ended : closing.all isXmlChar = true :=
    all_isXmlChar_of_assigned (by obtain rfl | rfl := closes <;> decide)
  cases mark with
  | none => simp [afterName, Line.attributeText, meantAttributes, name, ended]
  | some attributed =>
    have key : attributed.key.text.toList.all isXmlChar = true :=
      all_isXmlChar_of_assigned (by cases attributed.key <;> decide)
    have fixed : isXmlChar ' ' = true ∧ isXmlChar '=' = true ∧ isXmlChar '"' = true :=
      ⟨isXmlChar_of_assigned (by decide), isXmlChar_of_assigned (by decide), isXmlChar_of_assigned (by decide)⟩
    simp [afterName, Line.attributeText, Attribute.text, meantAttributes, name, ended, key, fixed,
      all_isXmlChar_escapeAttribute]

/-- The report of a tag that starts with the name of an element. -/
theorem report?_named (mark : Option Attribute) {closing held read : List Char} {kind : TagKind}
    (closes : closing = [] ∨ closing = ['/']) (text : expand? 0 held = some read)
    (isKind : Piece.kind ⟨element.tag.toList ++ Text.unifyLineEnds (afterName mark closing), held⟩ = kind) :
    Piece.report? ⟨element.tag.toList ++ Text.unifyLineEnds (afterName mark closing), held⟩ =
      some ⟨kind, element.tag, (meantAttributes mark).map fun given => (given.1, readValue given.2),
        String.ofList read⟩ := by
  obtain ⟨first, starts, noSlash, -⟩ := head?_tag element
  obtain ⟨taken, dropped⟩ := cut_afterName mark closes
  have named : Piece.named ⟨element.tag.toList ++ Text.unifyLineEnds (afterName mark closing), held⟩ =
      element.tag.toList ++ Text.unifyLineEnds (afterName mark closing) := by
    simp [Piece.named, List.head?_append, starts, noSlash]
  rw [Piece.report?, named, isKind, List.takeWhile_append_of_pos (isNameChar_tag element),
    List.dropWhile_append_of_pos (isNameChar_tag element), taken, dropped, List.append_nil,
    attributesFrom_afterName mark closes, text, String.ofList_toList]
  rfl

theorem toList_tag_clean :
    '<' ∉ element.tag.toList ∧ '>' ∉ element.tag.toList ∧ '\r' ∉ element.tag.toList := by
  cases element <;> decide

theorem notMem_afterName (mark : Option Attribute) {closing : List Char}
    (closes : closing = [] ∨ closing = ['/']) :
    '<' ∉ element.tag.toList ++ afterName mark closing ∧
      '>' ∉ element.tag.toList ++ afterName mark closing := by
  have tag := toList_tag_clean element
  have ended : '<' ∉ closing ∧ '>' ∉ closing := by obtain rfl | rfl := closes <;> decide
  cases mark with
  | none => simp [afterName, Line.attributeText, tag, ended]
  | some attributed =>
    have value := notMem_escapeAttribute attributed.value
    have key : '<' ∉ attributed.key.text.toList ∧ '>' ∉ attributed.key.text.toList := by
      cases attributed.key <;> decide
    simp [afterName, Line.attributeText, Attribute.text, tag, ended, value, key]

/-- The last character of a tag with an attribute is the one behind the attribute, or the quote that closes it. -/
theorem getLast?_named (attributed : Attribute) {closing : List Char} (closes : closing = [] ∨ closing = ['/']) :
    (element.tag.toList ++ Text.unifyLineEnds (afterName (some attributed) closing)).getLast? =
      some (closing.getLast?.getD '"') := by
  have clean : '\r' ∉ closing := by obtain rfl | rfl := closes <;> decide
  have behindQuote (front : List Char) :
      (front ++ '"' :: closing).getLast? = some (closing.getLast?.getD '"') := by
    obtain rfl | rfl := closes <;> simp [List.getLast?_append]
  have written := behindQuote (element.tag.toList ++ ' ' :: (attributed.key.text.toList ++
    '=' :: '"' :: Text.unifyLineEnds (escapeAttribute attributed.value).toList))
  simpa only [unifyLineEnds_afterName attributed.key attributed.value clean, List.append_assoc, List.cons_append]
    using written

/-- A tag that starts with the name of an element ends none. -/
theorem kind_named (rest held : List Char) : Piece.kind ⟨element.tag.toList ++ rest, held⟩ =
    if (element.tag.toList ++ rest).getLast? = some '/' then .empty else .start := by
  obtain ⟨first, starts, noSlash, -⟩ := head?_tag element
  rw [Piece.kind, if_neg (by simp [List.head?_append, starts, noSlash])]

end Tags

theorem reportsOf?_append (first second : List Piece) : reportsOf? (first ++ second) = do
    let reports ← reportsOf? first
    let others ← reportsOf? second
    return reports ++ others := by
  simp [reportsOf?, List.mapM_append]

/-- A tag with an escaped text behind it is one piece. -/
theorem scan_piece {tag : List Char} (clean : '<' ∉ tag ∧ '>' ∉ tag) (text : String) {rest : List Char}
    (starts : (scan rest).1 = []) :
    scan ('<' :: (tag ++ '>' :: (escapeText text).toList) ++ rest) =
      ([], [⟨tag, (escapeText text).toList⟩] ++ (scan rest).2) := by
  have held := scan_plain (lt_notMem_escapeText text) rest
  rw [starts, List.append_nil] at held
  rw [List.cons_append, List.append_assoc, List.cons_append, scan_tag clean.1 clean.2, held, List.singleton_append]

/-! ## Rows of characters with whole tags -/

variable [Runtime]

/-- A start tag with the text up to the next tag. -/
def Reported.opening (element : Element) (mark : Option Attribute) (text : String) : Reported :=
  ⟨.start, element.tag, meantAttributes mark, text⟩

/-- An end tag on a line. -/
def Reported.closing (element : Element) : Reported :=
  { kind := .finish, name := element.tag }

/-- The tag of an element that holds nothing, on a line. -/
def Reported.empty (element : Element) (attributed : Attribute) : Reported :=
  { kind := .empty, name := element.tag, attributes := meantAttributes (some attributed) }

/-- A row of characters from a tag on, up to the next tag, is written for such tags with their texts. -/
structure Yields (characters : List Char) (meant : List Reported) : Prop where
  legal : characters.all isXmlChar = meant.all Reported.isLegal
  reported : ∃ pieces, reportsOf? pieces = some (meant.map Reported.read) ∧
    ∀ rest, (scan rest).1 = [] → scan (characters ++ rest) = ([], pieces ++ (scan rest).2)

theorem Yields.nil : Yields [] [] :=
  ⟨rfl, [], rfl, fun rest starts => by rw [List.nil_append, List.nil_append, ← starts]⟩

theorem Yields.append {first second : List Char} {meant others : List Reported} (yields : Yields first meant)
    (yieldsNext : Yields second others) : Yields (first ++ second) (meant ++ others) := by
  obtain ⟨legal, pieces, reported, scanned⟩ := yields
  obtain ⟨moreLegal, morePieces, moreReported, moreScanned⟩ := yieldsNext
  refine ⟨by rw [List.all_append, List.all_append, legal, moreLegal], pieces ++ morePieces,
    by simp [reportsOf?_append, reported, moreReported], ?_⟩
  intro rest starts
  have behind := moreScanned rest starts
  rw [List.append_assoc, scanned _ (congrArg Prod.fst behind), behind, List.append_assoc]

theorem Yields.flatMap {α : Type} {write : α → List Char} {meant : α → List Reported}
    (yields : ∀ held, Yields (write held) (meant held)) (members : List α) :
    Yields (members.flatMap write) (members.flatMap meant) := by
  induction members with
  | nil => exact .nil
  | cons first rest inductionHypothesis => exact (yields first).append inductionHypothesis

/-- Characters of a tag and of the text behind it are legal together. -/
theorem all_isXmlChar_piece (tag : List Char) (text : String) :
    ('<' :: (tag ++ '>' :: (escapeText text).toList)).all isXmlChar =
      (tag.all isXmlChar && text.toList.all isXmlChar) := by
  have brackets : isXmlChar '<' = true ∧ isXmlChar '>' = true :=
    ⟨isXmlChar_of_assigned (by decide), isXmlChar_of_assigned (by decide)⟩
  simp [brackets, all_isXmlChar_escapeText]

/-- A tag of an element with the escaped text behind it. -/
theorem yields_tag {tag : List Char} (meant : Reported) (clean : '<' ∉ tag ∧ '>' ∉ tag)
    (legal : tag.all isXmlChar = meant.attributes.all fun given => given.2.toList.all isXmlChar)
    (isElement : Piece.isElement ⟨Text.unifyLineEnds tag, []⟩ = true)
    (report : ∀ held read, expand? 0 held = some read →
      Piece.report? ⟨Text.unifyLineEnds tag, held⟩ = some { meant.read with text := String.ofList read }) :
    Yields ('<' :: (tag ++ '>' :: (escapeText meant.text).toList)) [meant] := by
  refine ⟨?_, [⟨tag, (escapeText meant.text).toList⟩], ?_,
    fun rest starts => scan_piece clean meant.text starts⟩
  · rw [all_isXmlChar_piece, legal, List.all_cons, List.all_nil, Bool.and_true]
    rfl
  · have own := report _ _ (expand?_escapeText meant.text)
    have among : Piece.isElement (Piece.unified ⟨tag, (escapeText meant.text).toList⟩) = true := by
      simpa only [Piece.isElement, Piece.unified] using isElement
    rw [reportsOf?, List.map_singleton, List.filter_cons_of_pos among, List.filter_nil, List.mapM_cons,
      Piece.unified, own, String.ofList_toList]
    rfl

/-- A line that is one declaration or one instruction is passed over. -/
theorem yields_verbatim {text : String} {tag : List Char} (aside : IsAside text tag)
    (legal : tag.all isXmlChar = true) : Yields (charsOfLine (.verbatim text)) [] := by
  have line : charsOfLine (.verbatim text) = '<' :: (tag ++ '>' :: (escapeText "\n").toList) := by
    rw [escapeText_lineFeed]
    simp [charsOfLine, Line.text, aside.written]
  have passedOver : ¬Piece.isElement (Piece.unified ⟨tag, (escapeText "\n").toList⟩) = true := by
    have apart := aside.apart
    cases tag with
    | nil => simp at apart
    | cons first rest =>
      obtain starts | starts := apart <;> cases starts <;>
        simp [Piece.isElement, Piece.unified, Text.unifyLineEnds_cons]
  rw [line]
  refine ⟨?_, [⟨tag, (escapeText "\n").toList⟩], ?_, fun rest starts => scan_piece aside.clean "\n" starts⟩
  · rw [all_isXmlChar_piece, legal, all_isXmlChar_of_assigned (by decide)]
    rfl
  · rw [reportsOf?, List.map_singleton, List.filter_cons_of_neg passedOver]
    rfl

section Elements

variable (element : Element)

/-- A tag that starts with the name of an element yields this element. -/
theorem yields_named (mark : Option Attribute) {closing : List Char} {kind : TagKind} (text : String)
    (closes : closing = [] ∨ closing = ['/'])
    (isKind : ∀ held,
      Piece.kind ⟨element.tag.toList ++ Text.unifyLineEnds (afterName mark closing), held⟩ = kind) :
    Yields ('<' :: ((element.tag.toList ++ afterName mark closing) ++ '>' :: (escapeText text).toList))
      [⟨kind, element.tag, meantAttributes mark, text⟩] := by
  have unified : Text.unifyLineEnds (element.tag.toList ++ afterName mark closing) =
      element.tag.toList ++ Text.unifyLineEnds (afterName mark closing) :=
    Text.unifyLineEnds_append (toList_tag_clean element).2.2 _
  obtain ⟨first, starts, -, noQuery, noBang⟩ := head?_tag element
  refine yields_tag ⟨kind, element.tag, meantAttributes mark, text⟩
    (notMem_afterName element mark closes) (all_isXmlChar_tag element mark closes) ?_ ?_
  · rw [unified]
    simp [Piece.isElement, List.head?_append, starts, noQuery, noBang]
  · intro held read expanded
    rw [unified]
    exact report?_named element mark closes expanded (isKind held)

/-- The start tag of an element with the text behind it. -/
theorem yields_startTag (mark : Option Attribute) (text : String) :
    Yields ((Line.startTag element mark).toList ++ (escapeText text).toList) [.opening element mark text] := by
  have last : (element.tag.toList ++ Text.unifyLineEnds (afterName mark [])).getLast? ≠ some '/' := by
    cases mark with
    | none =>
      have written : afterName none [] = [] := rfl
      rw [written, Text.unifyLineEnds, List.append_nil]
      cases element <;> decide
    | some attributed =>
      rw [getLast?_named element attributed (.inl rfl)]
      decide
  have yields := yields_named element mark text (.inl rfl) fun held => by rw [kind_named, if_neg last]
  simpa [Line.startTag, afterName, Reported.opening] using yields

/-- The tag of an element that holds nothing, with its line feed. -/
theorem yields_empty (attributed : Attribute) :
    Yields (charsOfLine (.empty element attributed)) [.empty element attributed] := by
  have last : (element.tag.toList ++ Text.unifyLineEnds (afterName (some attributed) ['/'])).getLast? =
      some '/' := getLast?_named element attributed (.inr rfl)
  have yields := yields_named element (some attributed) "\n" (.inr rfl) fun held => by rw [kind_named, if_pos last]
  simpa [charsOfLine, Line.text, afterName, Line.attributeText, Reported.empty] using yields

/-- The end tag of an element with its line feed. -/
theorem yields_closing : Yields (charsOfLine (.closing element)) [.closing element] := by
  have unified : Text.unifyLineEnds ('/' :: element.tag.toList) = '/' :: element.tag.toList :=
    Text.unifyLineEnds_eq_self_iff.mpr (by simp [toList_tag_clean element])
  have taken : element.tag.toList.takeWhile Piece.isNameChar = element.tag.toList :=
    List.takeWhile_eq_self_iff.mpr (isNameChar_tag element)
  have dropped : element.tag.toList.dropWhile Piece.isNameChar = [] :=
    List.dropWhile_eq_nil_iff.mpr (isNameChar_tag element)
  have legal : ('/' :: element.tag.toList).all isXmlChar = true :=
    all_isXmlChar_of_assigned (by cases element <;> decide)
  have clean : '<' ∉ '/' :: element.tag.toList ∧ '>' ∉ '/' :: element.tag.toList := by
    simp [toList_tag_clean element]
  have yields := yields_tag (.closing element) clean legal (by rw [unified]; rfl)
    fun held read expanded => by
      rw [unified, Piece.report?, expanded]
      simp [Piece.named, Piece.kind, taken, dropped, attributesFrom, Reported.read, Reported.closing]
  simpa [charsOfLine, Line.text, toList_endTag, Reported.closing] using yields

end Elements

end TraceAutomata.Xml
