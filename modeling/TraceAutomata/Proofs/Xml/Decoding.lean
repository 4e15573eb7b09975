import Mathlib.Logic.Function.Basic
import TraceAutomata.Proofs.Xml.Substitution

/-!
# Reading references back

A processor reads an escaped text in one pass from left to right, and takes each reference for the character
it stands for. `decodeText_escapeText` says that this gives back the text that was escaped, also when it held
something that looks like a reference.

`escaping_reversible` gathers what holds of escaped texts and of escaped attribute values: they hold no markup, they
are read back, and the order of the replacements has no bearing on them.
-/

namespace TraceAutomata.Xml

/-- Read the text of an element. -/
def decodeText (text : String) : String :=
  String.ofList (decodeChars textReferences 0 text.toList)

theorem decodeText_escapeText (text : String) : decodeText (escapeText text) = text := by
  rw [decodeText, toList_escapeText, readable_textReferences.decodeChars_flatMap_substitute,
    String.ofList_toList]

/-- A text that looks escaped already. -/
example : decodeText (escapeText "a &amp;lt; b") = "a &amp;lt; b" := by decide

/-! ## Escaping as a whole -/

/-- What escaping by a table does: it leaves no markup, it can be undone, and its replacements do not get into each
other's way. -/
structure Reversible (references : List (List Char × Char)) (markup : List Char) (escape : String → String) :
    Prop where
  /-- No character of the markup is left. -/
  unmarked : ∀ text, ∀ mark ∈ markup, mark ∉ (escape text).toList
  /-- Every ampersand starts a reference. -/
  ampersands : ∀ text before after, (escape text).toList = before ++ '&' :: after →
    ∃ reference ∈ references, reference.1 <+: '&' :: after
  /-- Reading the references gives back the text. -/
  decoded : ∀ text : String, decodeChars references 0 (escape text).toList = text.toList
  /-- Different texts are escaped differently. -/
  injective : Function.Injective escape
  /-- Escaping replaces one character after the other throughout the text. -/
  inTurn : ∀ text, (escape text).toList = replaceInTurn references text.toList
  /-- It comes to the same to write all characters by their references at once. -/
  atOnce : ∀ text : String, replaceInTurn references text.toList = text.toList.flatMap (substitute references)

/-- Escaping is reversible where it writes each character by the reference in a readable table. -/
theorem Readable.reversible {references : List (List Char × Char)} {markup : List Char} {escape : String → String}
    (readable : Readable references)
    (apart : references.Pairwise fun earlier later => later.2 ∉ earlier.1)
    (marks : ∀ mark ∈ markup, (∃ reference ∈ references, reference.2 = mark) ∧
      ∀ reference ∈ references, mark ∉ reference.1)
    (inTurn : ∀ text, (escape text).toList = replaceInTurn references text.toList) :
    Reversible references markup escape := by
  have atOnce : ∀ text, (escape text).toList = text.toList.flatMap (substitute references) := by
    intro text
    rw [inTurn, replaceInTurn_eq_flatMap apart]
  have decoded : ∀ text : String, decodeChars references 0 (escape text).toList = text.toList := by
    intro text
    rw [atOnce, readable.decodeChars_flatMap_substitute]
  constructor
  · intro text mark present
    obtain ⟨meant, unwritten⟩ := marks mark present
    rw [atOnce]
    exact notMem_flatMap_substitute meant unwritten text.toList
  · intro text before after split
    rw [atOnce] at split
    exact readable.reference_of_ampersand split
  · exact decoded
  · intro left right same
    rw [← String.toList_inj, ← decoded left, ← decoded right, same]
  · exact inTurn
  · intro text
    exact replaceInTurn_eq_flatMap apart text.toList

/-- The brackets of tags are written by references, and so is the double quote in the value of an attribute. -/
theorem markup_written :
    (∀ mark ∈ ['<', '>'], (∃ reference ∈ textReferences, reference.2 = mark) ∧
      ∀ reference ∈ textReferences, mark ∉ reference.1) ∧
    ∀ mark ∈ ['<', '>', '"'], (∃ reference ∈ attributeReferences, reference.2 = mark) ∧
      ∀ reference ∈ attributeReferences, mark ∉ reference.1 := by
  -- Mark by mark, since there are too many characters to decide this for all of them.
  simp only [List.mem_cons, List.not_mem_nil, or_false, forall_eq_or_imp, forall_eq]
  decide

/-- Escaping the text of an element leaves no brackets of tags, escaping the value of an attribute no double quote
either, and both can be undone. -/
theorem escaping_reversible :
    Reversible textReferences ['<', '>'] escapeText ∧
      Reversible attributeReferences ['<', '>', '"'] escapeAttribute := by
  constructor
  · refine readable_textReferences.reversible (by decide) markup_written.1 fun text => ?_
    rw [escapeText, String.toList_ofList, escapeChars_eq_replaceInTurn]
  · refine readable_attributeReferences.reversible (by decide) markup_written.2 fun value => ?_
    rw [escapeAttribute, String.toList_ofList, escapeAttributeChars_eq_replaceInTurn]

end TraceAutomata.Xml
