import Mathlib.Data.List.Basic
import TraceAutomata.Xml.Escape

/-!
# Tables of references

Escaping replaces one character after the other throughout the whole text, so a later replacement might change what
an earlier one wrote. Where no reference holds a character that is replaced later, it comes to the same as writing
each character by its own reference at once (`replaceInTurn_eq_flatMap`).

What a `Readable` table wrote is read back in one pass from left to right (`decodeChars_flatMap_substitute`), and
every ampersand in it starts a reference (`reference_of_ampersand`).
-/

namespace TraceAutomata.Xml

/-- The references in the text of an element, with the characters they stand for. -/
def textReferences : List (List Char × Char) :=
  [(ampersandReference, '&'), (greaterReference, '>'), (lessReference, '<')]

/-- The references in the value of an attribute, with the characters they stand for. -/
def attributeReferences : List (List Char × Char) :=
  textReferences ++ [(quoteReference, '"')]

/-- Replace the characters of a table by their references, one after the other throughout the text. -/
def replaceInTurn (references : List (List Char × Char)) (text : List Char) : List Char :=
  references.foldl (fun current reference => replaceAll reference.2 reference.1 current) text

/-- A character as a table writes it. -/
def substitute (references : List (List Char × Char)) (character : Char) : List Char :=
  match references.find? fun reference => reference.2 == character with
  | some reference => reference.1
  | none => [character]

/-- Read references from a table back. The number counts the characters that still belong to the reference
which was read last. -/
def decodeChars (references : List (List Char × Char)) : Nat → List Char → List Char
  | _, [] => []
  | skipped + 1, _ :: rest => decodeChars references skipped rest
  | 0, character :: rest =>
    match references.find? fun reference => reference.1.isPrefixOf (character :: rest) with
    | some (written, meant) => meant :: decodeChars references (written.length - 1) rest
    | none => character :: decodeChars references 0 rest

section Table

variable {references : List (List Char × Char)} {reference : List Char × Char} {text : List Char}
  {character : Char}

/-! ## In turn and at once -/

@[simp] theorem substitute_nil (character : Char) : substitute [] character = [character] :=
  rfl

theorem substitute_cons (first : List Char × Char) (rest : List (List Char × Char)) (character : Char) :
    substitute (first :: rest) character =
      if character = first.2 then first.1 else substitute rest character := by
  rw [substitute, List.find?_cons]
  by_cases same : character = first.2
  · simp [same]
  · have passed : (first.2 == character) = false := by simpa using Ne.symm same
    rw [if_neg same, passed, substitute]

theorem substitute_of_find {first : List Char × Char}
    (found : references.find? (fun reference => reference.2 == character) = some first) :
    substitute references character = first.1 := by
  rw [substitute, found]

/-- A character without a reference is written as it is. -/
theorem substitute_of_foreign (foreign : ∀ reference ∈ references, reference.2 ≠ character) :
    substitute references character = [character] := by
  have unfound : references.find? (fun reference => reference.2 == character) = none := by
    simpa using foreign
  rw [substitute, unfound]

/-- A text without characters that have references stays as it is. -/
theorem flatMap_substitute_of_foreign (foreign : ∀ reference ∈ references, reference.2 ∉ text) :
    text.flatMap (substitute references) = text := by
  induction text with
  | nil => rfl
  | cons character rest inductionHypothesis =>
    have own : substitute references character = [character] := by
      apply substitute_of_foreign
      rintro reference present rfl
      exact foreign reference present List.mem_cons_self
    have others : ∀ reference ∈ references, reference.2 ∉ rest := by
      intro reference present among
      exact foreign reference present (List.mem_cons_of_mem _ among)
    rw [List.flatMap_cons, own, inductionHypothesis others, List.singleton_append]

/-- Where no reference holds a character that is replaced after it, replacing in turn writes each character by its
own reference. -/
theorem replaceInTurn_eq_flatMap
    (apart : references.Pairwise fun earlier later => later.2 ∉ earlier.1) (text : List Char) :
    replaceInTurn references text = text.flatMap (substitute references) := by
  induction references generalizing text with
  | nil => exact (flatMap_substitute_of_foreign (by simp)).symm
  | cons first rest inductionHypothesis =>
    obtain ⟨kept, others⟩ := List.pairwise_cons.mp apart
    have each : ∀ character, (if character = first.2 then first.1 else [character]).flatMap (substitute rest) =
        substitute (first :: rest) character := by
      intro character
      by_cases same : character = first.2
      · -- The reference that was put in is left alone by all later replacements.
        rw [substitute_cons, if_pos same, if_pos same, flatMap_substitute_of_foreign kept]
      · rw [substitute_cons, if_neg same, if_neg same, List.flatMap_singleton]
    calc replaceInTurn (first :: rest) text = replaceInTurn rest (replaceAll first.2 first.1 text) := rfl
      _ = (replaceAll first.2 first.1 text).flatMap (substitute rest) := inductionHypothesis others _
      _ = text.flatMap (substitute (first :: rest)) := by
        rw [replaceAll, List.flatMap_assoc, funext each]

/-! ## Reading back -/

/-- A table whose references can be told apart from each other and from all other characters. -/
structure Readable (references : List (List Char × Char)) : Prop where
  /-- A reference starts with an ampersand and holds no other one. -/
  started : ∀ reference ∈ references, reference.1 = '&' :: reference.1.tail ∧ '&' ∉ reference.1.tail
  /-- The ampersand is written by a reference. -/
  ampersand : ∃ reference ∈ references, reference.2 = '&'
  /-- No reference is the beginning of another one. -/
  prefixFree : ∀ first ∈ references, ∀ second ∈ references, first.1 <+: second.1 → first = second

/-- A character is written by a reference that stands for it, or as it is; then it is no ampersand. -/
theorem Readable.substitute_cases (readable : Readable references) (character : Char) :
    (∃ reference ∈ references, reference.2 = character ∧ substitute references character = reference.1) ∨
      substitute references character = [character] ∧ character ≠ '&' := by
  cases found : references.find? fun reference => reference.2 == character with
  | some reference =>
    have meant : reference.2 = character := by simpa using List.find?_some found
    exact .inl ⟨reference, List.mem_of_find?_eq_some found, meant, substitute_of_find found⟩
  | none =>
    have foreign : ∀ reference ∈ references, reference.2 ≠ character := by simpa using found
    refine .inr ⟨substitute_of_foreign foreign, ?_⟩
    rintro rfl
    obtain ⟨reference, present, meant⟩ := readable.ampersand
    exact foreign reference present meant

/-- The reference at the front of a text is the only one that it starts with. -/
theorem Readable.find?_append (readable : Readable references) (present : reference ∈ references)
    (rest : List Char) :
    references.find? (fun other => other.1.isPrefixOf (reference.1 ++ rest)) = some reference := by
  cases found : references.find? fun other => other.1.isPrefixOf (reference.1 ++ rest) with
  | none =>
    have unread := List.find?_eq_none.mp found reference present
    simp at unread
  | some other =>
    have among := List.mem_of_find?_eq_some found
    have starts : other.1 <+: reference.1 ++ rest := by simpa using List.find?_some found
    congr 1
    rcases List.prefix_or_prefix_of_prefix starts (List.prefix_append reference.1 rest) with inside | outside
    · exact readable.prefixFree other among reference present inside
    · exact (readable.prefixFree reference present other among outside).symm

/-- The characters of a reference that was read are passed over. -/
theorem decodeChars_skip (passed rest : List Char) :
    decodeChars references passed.length (passed ++ rest) = decodeChars references 0 rest := by
  induction passed with
  | nil => rfl
  | cons character others inductionHypothesis => exact inductionHypothesis

/-- What a character is written as is read as this character. -/
theorem Readable.decodeChars_substitute (readable : Readable references) (character : Char) (rest : List Char) :
    decodeChars references 0 (substitute references character ++ rest) =
      character :: decodeChars references 0 rest := by
  obtain ⟨reference, present, rfl, written⟩ | ⟨written, other⟩ := readable.substitute_cases character
  · have read := readable.find?_append present rest
    have start := (readable.started reference present).1
    rw [written, start, List.cons_append, decodeChars, ← List.cons_append, ← start, read]
    have counted : reference.1.length - 1 = reference.1.tail.length := List.length_tail.symm
    simp only [counted, decodeChars_skip]
  · -- Every reference starts with an ampersand, so this character starts none.
    have unread : references.find? (fun reference => reference.1.isPrefixOf (character :: rest)) = none := by
      rw [List.find?_eq_none]
      intro reference present
      rw [(readable.started reference present).1]
      simp [Ne.symm other]
    rw [written, List.singleton_append, decodeChars, unread]

/-- What a table wrote is read back. -/
theorem Readable.decodeChars_flatMap_substitute (readable : Readable references) (text : List Char) :
    decodeChars references 0 (text.flatMap (substitute references)) = text := by
  induction text with
  | nil => rfl
  | cons character rest inductionHypothesis =>
    rw [List.flatMap_cons, readable.decodeChars_substitute, inductionHypothesis]

/-! ## What is left of the characters that have references -/

/-- A character that has a reference and stands in none is not left. -/
theorem notMem_flatMap_substitute {mark : Char} (meant : ∃ reference ∈ references, reference.2 = mark)
    (unwritten : ∀ reference ∈ references, mark ∉ reference.1) (text : List Char) :
    mark ∉ text.flatMap (substitute references) := by
  rw [List.mem_flatMap]
  rintro ⟨character, -, present⟩
  cases found : references.find? fun reference => reference.2 == character with
  | some reference =>
    rw [substitute_of_find found] at present
    exact unwritten reference (List.mem_of_find?_eq_some found) present
  | none =>
    have foreign : ∀ reference ∈ references, reference.2 ≠ character := by simpa using found
    rw [substitute_of_foreign foreign] at present
    obtain rfl := List.mem_singleton.mp present
    obtain ⟨reference, among, same⟩ := meant
    exact foreign reference among same

/-- Every ampersand that a table wrote starts a reference. -/
theorem Readable.reference_of_ampersand (readable : Readable references) {before after : List Char}
    (split : text.flatMap (substitute references) = before ++ '&' :: after) :
    ∃ reference ∈ references, reference.1 <+: '&' :: after := by
  induction text generalizing before with
  | nil => simp at split
  | cons character rest inductionHypothesis =>
    rw [List.flatMap_cons] at split
    obtain ⟨between, -, behind⟩ | ⟨between, own, behind⟩ := List.append_eq_append_iff.mp split
    · exact inductionHypothesis behind
    · cases between with
      | nil =>
        have next : rest.flatMap (substitute references) = [] ++ '&' :: after := behind.symm
        exact inductionHypothesis next
      | cons mark more =>
        obtain ⟨rfl, behind⟩ := List.cons.inj behind
        obtain ⟨reference, present, -, written⟩ | ⟨written, other⟩ := readable.substitute_cases character
        · -- The only ampersand of a reference is its first character.
          obtain ⟨start, single⟩ := readable.started reference present
          rw [written, start] at own
          cases before with
          | nil =>
            refine ⟨reference, present, rest.flatMap (substitute references), ?_⟩
            rw [start, own, behind]
            rfl
          | cons first others =>
            rw [(List.cons.inj own).2] at single
            simp at single
        · rw [written] at own
          have among : '&' ∈ [character] := by
            rw [own]
            simp
          exact absurd (List.mem_singleton.mp among).symm other

end Table

/-! ## The tables of elements and of attributes -/

theorem readable_textReferences : Readable textReferences := by
  constructor <;> decide

theorem readable_attributeReferences : Readable attributeReferences := by
  constructor <;> decide

theorem escapeChars_eq_replaceInTurn (text : List Char) :
    escapeChars text = replaceInTurn textReferences text :=
  rfl

theorem escapeAttributeChars_eq_replaceInTurn (text : List Char) :
    escapeAttributeChars text = replaceInTurn attributeReferences text :=
  rfl

theorem toList_escapeText (text : String) :
    (escapeText text).toList = text.toList.flatMap (substitute textReferences) := by
  rw [escapeText, String.toList_ofList, escapeChars_eq_replaceInTurn, replaceInTurn_eq_flatMap (by decide)]

theorem toList_escapeAttribute (value : String) :
    (escapeAttribute value).toList = value.toList.flatMap (substitute attributeReferences) := by
  rw [escapeAttribute, String.toList_ofList, escapeAttributeChars_eq_replaceInTurn,
    replaceInTurn_eq_flatMap (by decide)]

end TraceAutomata.Xml
