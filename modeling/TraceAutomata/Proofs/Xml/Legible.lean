import Mathlib.Data.List.Basic
import TraceAutomata.Proofs.Xml.Substitution

/-!
# Legible writers

A writer is legible when what it has written can be read off the front of any text. Legible writers can be
put one after another, and repeated as long as what follows does not look like one more repetition. Escaped
texts are an instance: no reference is the start of another, and none starts like a tag.
-/

namespace TraceAutomata.Xml

variable {α : Type}

/-- What was written at the front of a text tells what it was written for, and where it ends. -/
def Legible (write : α → List Char) : Prop :=
  ∀ left right rest other, write left ++ rest = write right ++ other → left = right ∧ rest = other

/-- A text does not start with anything that was written. -/
def NeverStarts (write : α → List Char) (text : List Char) : Prop :=
  ∀ held more, write held ++ more ≠ text

/-- Repetitions can be read off a text up to where no more of them starts. -/
theorem Legible.flatMap_cancel {write : α → List Char} (legible : Legible write) {left right : List α}
    {rest other : List Char} (restEnds : NeverStarts write rest) (otherEnds : NeverStarts write other)
    (same : left.flatMap write ++ rest = right.flatMap write ++ other) :
    left = right ∧ rest = other := by
  induction left generalizing right with
  | nil =>
    cases right with
    | nil => exact ⟨rfl, same⟩
    | cons first others =>
      rw [List.flatMap_nil, List.nil_append, List.flatMap_cons, List.append_assoc] at same
      exact absurd same.symm (restEnds first _)
  | cons held more inductionHypothesis =>
    rw [List.flatMap_cons, List.append_assoc] at same
    cases right with
    | nil => exact absurd same (otherEnds held _)
    | cons first others =>
      rw [List.flatMap_cons, List.append_assoc] at same
      obtain ⟨rfl, after⟩ := legible held first _ _ same
      obtain ⟨rfl, remaining⟩ := inductionHypothesis after
      exact ⟨rfl, remaining⟩

/-- A text that starts otherwise than everything that was written starts with nothing of it. -/
theorem neverStarts_of_apart {write : α → List Char} {start begun : List Char}
    (starts : ∀ held, start <+: write held) (apart : ¬start <+: begun ∧ ¬begun <+: start)
    (rest : List Char) : NeverStarts write (begun ++ rest) := by
  intro held more same
  have startsText : start <+: begun ++ rest := by
    rw [← same]
    exact (starts held).trans (List.prefix_append _ _)
  rcases List.prefix_or_prefix_of_prefix startsText (List.prefix_append begun rest) with
    inside | outside
  · exact apart.1 inside
  · exact apart.2 outside

/-- Something that may be missing is read off like a repetition. -/
theorem Legible.option_cancel {write : α → List Char} (legible : Legible write)
    {left right : Option α} {rest other : List Char} (restEnds : NeverStarts write rest)
    (otherEnds : NeverStarts write other)
    (same : left.toList.flatMap write ++ rest = right.toList.flatMap write ++ other) :
    left = right ∧ rest = other := by
  obtain ⟨lists, remaining⟩ := legible.flatMap_cancel restEnds otherEnds same
  refine ⟨?_, remaining⟩
  cases left <;> cases right <;> simp_all

/-! ## Escaped texts -/

/-- A character of an element's text as it is written. -/
def escapeChar (character : Char) : List Char :=
  if character = '&' then ampersandReference
  else if character = '>' then greaterReference
  else if character = '<' then lessReference
  else [character]

/-- A character of an attribute's value as it is written. -/
def escapeAttributeChar (character : Char) : List Char :=
  if character = '"' then quoteReference else escapeChar character

theorem substitute_textReferences : substitute textReferences = escapeChar := by
  funext character
  simp only [textReferences, substitute_cons, substitute_nil, escapeChar]

theorem substitute_attributeReferences : substitute attributeReferences = escapeAttributeChar := by
  funext character
  simp only [attributeReferences, textReferences, List.cons_append, List.nil_append, substitute_cons,
    substitute_nil, escapeAttributeChar, escapeChar]
  split_ifs <;> simp_all

/-- Replacing one character after the other replaces each character by its own reference. -/
theorem escapeChars_eq_flatMap (text : List Char) : escapeChars text = text.flatMap escapeChar := by
  rw [escapeChars_eq_replaceInTurn, replaceInTurn_eq_flatMap (by decide), substitute_textReferences]

theorem escapeAttributeChars_eq_flatMap (text : List Char) :
    escapeAttributeChars text = text.flatMap escapeAttributeChar := by
  rw [escapeAttributeChars_eq_replaceInTurn, replaceInTurn_eq_flatMap (by decide),
    substitute_attributeReferences]

/-- The references and the other characters are different from their first character on, or, for two
references, within them. -/
theorem legible_escapeChar : Legible escapeChar := by
  intro left right rest other same
  unfold escapeChar ampersandReference greaterReference lessReference at same
  split_ifs at same <;> simp only [List.cons_append, List.nil_append, List.cons.injEq] at same <;>
    grind

theorem legible_escapeAttributeChar : Legible escapeAttributeChar := by
  intro left right rest other same
  unfold escapeAttributeChar quoteReference escapeChar ampersandReference greaterReference
    lessReference at same
  split_ifs at same <;> simp only [List.cons_append, List.nil_append, List.cons.injEq] at same <;>
    grind

/-- No character of an element's text is written with a less-than sign in front. -/
theorem escapeChar_neverStarts (text : List Char) : NeverStarts escapeChar ('<' :: text) := by
  intro held more same
  unfold escapeChar ampersandReference greaterReference lessReference at same
  split_ifs at same <;> simp_all

/-- No character of an attribute's value is written with a double quote in front. -/
theorem escapeAttributeChar_neverStarts (text : List Char) :
    NeverStarts escapeAttributeChar ('"' :: text) := by
  intro held more same
  unfold escapeAttributeChar quoteReference escapeChar ampersandReference greaterReference
    lessReference at same
  split_ifs at same <;> simp_all

section Escaped

variable {left right : String} {rest other : List Char}

/-- The text of an element can be read off up to the tag that follows. -/
theorem escapeText_cancel
    (same : (escapeText left).toList ++ '<' :: rest = (escapeText right).toList ++ '<' :: other) :
    left = right ∧ rest = other := by
  simp only [escapeText, String.toList_ofList, escapeChars_eq_flatMap] at same
  obtain ⟨texts, remaining⟩ := legible_escapeChar.flatMap_cancel (escapeChar_neverStarts rest)
    (escapeChar_neverStarts other) same
  exact ⟨String.toList_inj.mp texts, (List.cons.inj remaining).2⟩

/-- The value of an attribute can be read off up to the quote that follows. -/
theorem escapeAttribute_cancel
    (same : (escapeAttribute left).toList ++ '"' :: rest =
      (escapeAttribute right).toList ++ '"' :: other) :
    left = right ∧ rest = other := by
  simp only [escapeAttribute, String.toList_ofList, escapeAttributeChars_eq_flatMap] at same
  obtain ⟨values, remaining⟩ := legible_escapeAttributeChar.flatMap_cancel
    (escapeAttributeChar_neverStarts rest) (escapeAttributeChar_neverStarts other) same
  exact ⟨String.toList_inj.mp values, (List.cons.inj remaining).2⟩

/-- Different texts are escaped differently. -/
theorem escapeText_injective (same : escapeText left = escapeText right) : left = right := by
  have closed : (escapeText left).toList ++ ['<'] = (escapeText right).toList ++ ['<'] := by
    rw [same]
  exact (escapeText_cancel closed).1

end Escaped

/-- Texts are escaped part by part. -/
theorem escapeText_append (first second : String) :
    escapeText (first ++ second) = escapeText first ++ escapeText second := by
  apply String.toList_inj.mp
  simp [escapeText, escapeChars_eq_flatMap]

@[simp] theorem escapeText_lineFeed : escapeText "\n" = "\n" := by
  decide

end TraceAutomata.Xml
