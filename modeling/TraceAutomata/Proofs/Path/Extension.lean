import TraceAutomata.Proofs.Path

/-!
# Extensions that are cut off

A component is cut at its last dot, unless only dots stand before it (`Cut`, `cut_splitComponent`). So what is cut off
a path is the extension that was appended to it, whatever dots its directories and its name hold
(`withoutExtension_append_extension`), and a model dump has its own extension in place of that of its document
(`dump_append_documentExtension`).
-/

namespace TraceAutomata.Path

/-! ## Cutting a component -/

/-- A component and the two parts that it is cut into: at its last dot, unless only dots stand before it. -/
inductive Cut : List Char → List Char → List Char → Prop
  | extension {base extension : List Char} (named : ∃ character ∈ base, character ≠ '.')
      (undotted : '.' ∉ extension) : Cut (base ++ '.' :: extension) base ('.' :: extension)
  | whole {component : List Char}
      (unnamed : ∀ base extension, component = base ++ '.' :: extension → '.' ∉ extension →
        ∀ character ∈ base, character = '.') : Cut component component []

theorem ne_dot_of_undotted {text : List Char} (undotted : '.' ∉ text) :
    ∀ character ∈ text.reverse, (character != '.') = true := by
  intro character present
  rw [bne_iff_ne]
  rintro rfl
  exact undotted (List.mem_reverse.mp present)

section Component

variable {ending : List Char} (undotted : '.' ∉ ending) (base : List Char)
include undotted

theorem takeWhileEnd_append_dot : takeWhileEnd (· != '.') (base ++ '.' :: ending) = ending := by
  simp [takeWhileEnd, List.takeWhile_append_of_pos (ne_dot_of_undotted undotted)]

theorem dropWhileEnd_append_dot : Text.dropWhileEnd (· != '.') (base ++ '.' :: ending) = base ++ ['.'] := by
  simp [Text.dropWhileEnd, List.dropWhile_append_of_pos (ne_dot_of_undotted undotted)]

/-- A component is cut at its last dot unless only dots stand before that. -/
theorem splitComponent_append_dot : splitComponent (base ++ '.' :: ending) =
    if base.all (· == '.') then (base ++ '.' :: ending, []) else (base, '.' :: ending) := by
  simp [splitComponent, takeWhileEnd_append_dot undotted, dropWhileEnd_append_dot undotted]

end Component

/-- A component without dots is not cut. -/
theorem splitComponent_of_undotted {component : List Char} (undotted : '.' ∉ component) :
    splitComponent component = (component, []) := by
  have dropped : Text.dropWhileEnd (· != '.') component = [] := by
    rw [Text.dropWhileEnd, List.dropWhile_eq_nil_iff.mpr (ne_dot_of_undotted undotted), List.reverse_nil]
  simp [splitComponent, dropped]

/-- A component without dots, or up to its last dot and behind it. -/
theorem exists_last_dot (component : List Char) :
    '.' ∉ component ∨ ∃ base ending, component = base ++ '.' :: ending ∧ '.' ∉ ending := by
  by_cases dotted : '.' ∈ component
  · obtain ⟨ending, before, reversed, undotted⟩ := List.eq_append_cons_of_mem (List.mem_reverse.mpr dotted)
    refine .inr ⟨before.reverse, ending.reverse, ?_, ?_⟩
    · rw [← List.reverse_reverse component, reversed]
      simp
    · rwa [List.mem_reverse]
  · exact .inl dotted

/-- What a component is cut into. -/
theorem cut_splitComponent (component : List Char) :
    Cut component (splitComponent component).1 (splitComponent component).2 := by
  obtain undotted | ⟨base, ending, rfl, undotted⟩ := exists_last_dot component
  · rw [splitComponent_of_undotted undotted]
    refine .whole ?_
    rintro base extension rfl
    simp at undotted
  · rw [splitComponent_append_dot undotted]
    split
    · rename_i dots
      refine .whole fun other extension same otherUndotted => ?_
      -- There is only one last dot, so what stands before it is the same.
      have dropped := dropWhileEnd_append_dot otherUndotted other
      rw [← same, dropWhileEnd_append_dot undotted] at dropped
      rw [← (List.append_inj' dropped rfl).1]
      simpa using dots
    · rename_i named
      refine .extension ?_ undotted
      simpa using named

/-- What stands before and behind the cut is determined. -/
theorem Cut.splitComponent_eq {component base extension : List Char} (cut : Cut component base extension) :
    splitComponent component = (base, extension) := by
  cases cut with
  | extension named undotted =>
    rw [splitComponent_append_dot undotted, if_neg]
    simpa using named
  | whole unnamed =>
    obtain undotted | ⟨before, ending, rfl, undotted⟩ := exists_last_dot component
    · exact splitComponent_of_undotted undotted
    · rw [splitComponent_append_dot undotted, if_pos]
      simpa using unnamed before ending rfl undotted

/-- An extension that was appended to a path with a name is cut off again. -/
theorem withoutExtension_append_extension {path ending : List Char}
    (named : ∃ character ∈ lastComponent path, character ≠ '.') (undotted : '.' ∉ ending)
    (free : SlashFree ('.' :: ending)) : withoutExtension (path ++ '.' :: ending) = path := by
  have cut : Cut (lastComponent path ++ '.' :: ending) (lastComponent path) ('.' :: ending) :=
    .extension named undotted
  rw [withoutExtension, throughLastSlash_append free, lastComponent_append path free, cut.splitComponent_eq]
  exact throughLastSlash_append_lastComponent path

/-! ## The name of a path -/

/-- The last component of a path, without the extension of a document at its end. -/
def bareName (path : List Char) : List Char :=
  let last := lastComponent path
  if documentExtension <:+ last then last.take (last.length - documentExtension.length) else last

/-- The name of a path holds something other than dots. -/
def Named (path : List Char) : Prop :=
  ∃ character ∈ bareName path, character ≠ '.'

instance (path : List Char) : Decidable (Named path) :=
  decidable_of_iff ((bareName path).any fun character => character != '.') (by simp [Named])

theorem suffix_lastComponent (path : List Char) : lastComponent path <:+ path :=
  ⟨throughLastSlash path, throughLastSlash_append_lastComponent path⟩

theorem bareName_append_documentExtension (base : List Char) :
    bareName (base ++ documentExtension) = lastComponent base := by
  rw [bareName, lastComponent_append base slashFree_documentExtension, if_pos (List.suffix_append _ _),
    List.length_append, Nat.add_sub_cancel, List.take_left]

/-- A document carries its extension behind a path with the same name. -/
theorem exists_document_eq_named (path : List Char) :
    ∃ base, document path = base ++ documentExtension ∧ lastComponent base = bareName path := by
  by_cases ends : documentExtension <:+ path
  · obtain ⟨base, rfl⟩ := ends
    refine ⟨base, document_of_suffix (List.suffix_append _ _), ?_⟩
    exact (bareName_append_documentExtension base).symm
  · refine ⟨path, ?_, ?_⟩
    · rw [document, ensureSuffix, if_neg]
      rwa [List.isSuffixOf_iff_suffix]
    · rw [bareName, if_neg]
      exact fun inside => ends (inside.trans (suffix_lastComponent path))

/-- The model dump of a document with a name has the place of the extension taken by its own. -/
theorem dump_append_documentExtension {base : List Char}
    (named : ∃ character ∈ lastComponent base, character ≠ '.') :
    dump (base ++ documentExtension) = base ++ dumpExtension := by
  have cut : withoutExtension (base ++ documentExtension) = base :=
    withoutExtension_append_extension named (by decide) slashFree_documentExtension
  rw [dump, cut]

end TraceAutomata.Path
