import Mathlib.Data.List.Infix
import Mathlib.Data.List.TakeWhile
import TraceAutomata.Output

/-!
# Components of paths

Text without slashes that is put at the end of a path makes its last component longer
(`lastComponent_append`), and the last component is the last of all components (`components_eq_append`).
So a document and a model dump are never named by the same last component
(`lastComponent_document_ne_dump`).

A component is joined to a directory by at most one slash (`join_eq_closed_append`), and taking the directory of a
path and joining a component to it stays in that directory (`directory_join_directory`).

A component is cut before its extension and loses nothing (`splitComponent_append`). An extension has one dot,
so the model dump that belongs to a trace is never named like the trace
(`lastComponent_dump_defaultOutput_ne`).
-/

namespace TraceAutomata.Path

/-- Text without a slash. -/
def SlashFree (text : List Char) : Prop :=
  text.all isComponentChar = true

instance (text : List Char) : Decidable (SlashFree text) :=
  inferInstanceAs (Decidable (text.all isComponentChar = true))

/-! ## The last component -/

theorem slashFree_lastComponent (path : List Char) : SlashFree (lastComponent path) := by
  rw [SlashFree, lastComponent, takeWhileEnd, List.all_reverse]
  exact List.all_takeWhile

theorem lastComponent_append (path : List Char) {ending : List Char} (free : SlashFree ending) :
    lastComponent (path ++ ending) = lastComponent path ++ ending := by
  have members : ∀ character ∈ ending.reverse, isComponentChar character = true := by
    simpa [SlashFree] using free
  rw [lastComponent, takeWhileEnd, List.reverse_append, List.takeWhile_append_of_pos members,
    List.reverse_append, List.reverse_reverse]
  rfl

theorem dropWhileEnd_append_takeWhileEnd {α : Type} (test : α → Bool) (members : List α) :
    Text.dropWhileEnd test members ++ takeWhileEnd test members = members := by
  rw [Text.dropWhileEnd, takeWhileEnd, ← List.reverse_append, List.takeWhile_append_dropWhile,
    List.reverse_reverse]

theorem throughLastSlash_append_lastComponent (path : List Char) :
    throughLastSlash path ++ lastComponent path = path :=
  dropWhileEnd_append_takeWhileEnd isComponentChar path

/-- What goes through the last slash is nothing or ends with it. -/
theorem throughLastSlash_eq_nil_or (path : List Char) :
    throughLastSlash path = [] ∨ ∃ before, throughLastSlash path = before ++ ['/'] := by
  rw [throughLastSlash, Text.dropWhileEnd]
  cases rest : path.reverse.dropWhile isComponentChar with
  | nil => exact .inl rfl
  | cons character others =>
    have stopped := List.head_dropWhile_not (p := isComponentChar) (l := path.reverse) (by simp [rest])
    have slash : character = '/' := by simpa [rest, isComponentChar] using stopped
    exact .inr ⟨others.reverse, by rw [List.reverse_cons, slash]⟩

/-- A path is its last component, with nothing or a directory and a slash before it. -/
theorem eq_lastComponent_or (path : List Char) :
    path = lastComponent path ∨ ∃ before, path = before ++ '/' :: lastComponent path := by
  have whole := throughLastSlash_append_lastComponent path
  obtain none | ⟨before, through⟩ := throughLastSlash_eq_nil_or path
  · left
    rw [none, List.nil_append] at whole
    exact whole.symm
  · right
    rw [through, List.append_assoc, List.singleton_append] at whole
    exact ⟨before, whole.symm⟩

theorem dropWhileEnd_concat_slash (before : List Char) :
    Text.dropWhileEnd (· == '/') (before ++ ['/']) = Text.dropWhileEnd (· == '/') before := by
  simp [Text.dropWhileEnd]

theorem lastComponent_concat_slash (before : List Char) : lastComponent (before ++ ['/']) = [] := by
  simp [lastComponent, takeWhileEnd, isComponentChar]

theorem lastComponent_throughLastSlash (path : List Char) : lastComponent (throughLastSlash path) = [] := by
  obtain none | ⟨before, through⟩ := throughLastSlash_eq_nil_or path
  · rw [none]
    rfl
  · rw [through]
    exact lastComponent_concat_slash before

section Ending

variable {ending : List Char} (free : SlashFree ending) (path : List Char)
include free

theorem throughLastSlash_append : throughLastSlash (path ++ ending) = throughLastSlash path := by
  have members : ∀ character ∈ ending.reverse, isComponentChar character = true := by
    simpa [SlashFree] using free
  rw [throughLastSlash, Text.dropWhileEnd, List.reverse_append, List.dropWhile_append_of_pos members]
  rfl

/-- Text without slashes at the end of a path leaves its directory as it is. -/
theorem directory_append : directory (path ++ ending) = directory path := by
  rw [directory, directory, throughLastSlash_append free]

end Ending

/-! ## Extensions -/

/-- The extension of the last component with its dot, or nothing. -/
def extension (path : List Char) : List Char :=
  (splitComponent (lastComponent path)).2

/-- A component is cut in two, and nothing is lost. -/
theorem splitComponent_append (component : List Char) :
    (splitComponent component).1 ++ (splitComponent component).2 = component := by
  have whole := dropWhileEnd_append_takeWhileEnd (· != '.') component
  unfold splitComponent
  dsimp only
  split
  · rename_i stem reversed
    split
    · exact List.append_nil component
    · have before : Text.dropWhileEnd (· != '.') component = stem.reverse ++ ['.'] := by
        rw [← List.reverse_cons, ← reversed, List.reverse_reverse]
      rw [before, List.append_assoc] at whole
      exact whole
  · exact List.append_nil component

/-- An extension has no dot but its first character. -/
theorem count_dot_splitComponent_le (component : List Char) :
    (splitComponent component).2.count '.' ≤ 1 := by
  have undotted : (takeWhileEnd (· != '.') component).count '.' = 0 := by
    apply List.count_eq_zero_of_not_mem
    intro dot
    have taken : '.' ∈ component.reverse.takeWhile (· != '.') := List.mem_reverse.mp dot
    have undotted := List.all_takeWhile (p := (· != '.')) (l := component.reverse)
    exact absurd (List.all_eq_true.mp undotted '.' taken) (by decide)
  unfold splitComponent
  dsimp only
  split
  · split
    · exact Nat.zero_le 1
    · rw [List.count_cons_self, undotted]
  · exact Nat.zero_le 1

theorem stem_append_extension (path : List Char) : stem path ++ extension path = lastComponent path :=
  splitComponent_append (lastComponent path)

theorem slashFree_stem (path : List Char) : SlashFree (stem path) := by
  have free := slashFree_lastComponent path
  rw [← stem_append_extension, SlashFree, List.all_append, Bool.and_eq_true] at free
  exact free.1

theorem lastComponent_withoutExtension (path : List Char) : lastComponent (withoutExtension path) = stem path := by
  show lastComponent (throughLastSlash path ++ stem path) = stem path
  rw [lastComponent_append _ (slashFree_stem path), lastComponent_throughLastSlash, List.nil_append]

/-! ## Beginnings of paths -/

theorem prefix_dropWhileEnd {α : Type} (test : α → Bool) (members : List α) :
    Text.dropWhileEnd test members <+: members :=
  ⟨takeWhileEnd test members, dropWhileEnd_append_takeWhileEnd test members⟩

/-- The directory of a path is its beginning. -/
theorem prefix_directory (path : List Char) : directory path <+: path := by
  have through := prefix_dropWhileEnd isComponentChar path
  unfold directory
  dsimp only
  split
  · exact through
  · exact (prefix_dropWhileEnd _ _).trans through

/-! ## Joined paths -/

/-- A directory with a slash behind it, unless it ends with one or there is none. -/
def closed (directory : List Char) : List Char :=
  if directory = [] ∨ directory.getLast? = some '/' then directory else directory ++ ['/']

theorem closed_concat_slash (before : List Char) : closed (before ++ ['/']) = before ++ ['/'] := by
  rw [closed, if_pos]
  simp

theorem closed_eq_nil_or (directory : List Char) :
    closed directory = [] ∨ ∃ before, closed directory = before ++ ['/'] := by
  rw [closed]
  split
  · rename_i ends
    exact ends.imp_right List.getLast?_eq_some_iff.mp
  · exact .inr ⟨directory, rfl⟩

theorem lastComponent_closed (directory : List Char) : lastComponent (closed directory) = [] := by
  obtain empty | ⟨before, ends⟩ := closed_eq_nil_or directory
  · rw [empty]
    rfl
  · rw [ends]
    exact lastComponent_concat_slash before

/-- A component is joined to a directory by at most one slash. -/
theorem join_eq_closed_append (directory : List Char) {component : List Char} (free : SlashFree component) :
    join directory component = closed directory ++ component := by
  have relative : ¬(component.head? == some '/') = true := by
    cases component with
    | nil => simp
    | cons first rest =>
      simp only [SlashFree, List.all_cons, Bool.and_eq_true, isComponentChar, bne_iff_ne] at free
      simpa using free.1
  rw [join, if_neg relative, closed]
  simp only [Bool.or_eq_true, List.isEmpty_iff, beq_iff_eq]
  split
  · rfl
  · rw [List.append_assoc, List.singleton_append]

/-- A component that is joined to a directory is the last component. -/
theorem lastComponent_join (directory : List Char) {component : List Char} (free : SlashFree component) :
    lastComponent (join directory component) = component := by
  rw [join_eq_closed_append directory free, lastComponent_append _ free, lastComponent_closed,
    List.nil_append]

/-- What is joined to a directory stands at the end. -/
theorem suffix_join (directory path : List Char) : path <:+ join directory path := by
  unfold join
  split
  · exact List.suffix_rfl
  · split
    · exact List.suffix_append directory path
    · exact (List.suffix_cons '/' path).trans (List.suffix_append directory _)

/-- A path lies in a directory: it is the directory and, behind a slash, its last component. -/
def LiesIn (directory path : List Char) : Prop :=
  path = closed directory ++ lastComponent path

theorem liesIn_join (directory : List Char) {component : List Char} (free : SlashFree component) :
    LiesIn directory (join directory component) := by
  rw [LiesIn, lastComponent_join directory free]
  exact join_eq_closed_append directory free

theorem throughLastSlash_closed (directory : List Char) :
    throughLastSlash (closed directory) = closed directory := by
  have whole := throughLastSlash_append_lastComponent (closed directory)
  rwa [lastComponent_closed, List.append_nil] at whole

/-- A directory without the slashes at its end, unless it is slashes alone. -/
def trimmed (head : List Char) : List Char :=
  if head.all (· == '/') then head else Text.dropWhileEnd (· == '/') head

theorem directory_eq_trimmed (path : List Char) : directory path = trimmed (throughLastSlash path) :=
  rfl

/-- Slashes at the end can be left out and one of them put back. -/
theorem trimmed_closed_trimmed {head : List Char} (whole : head = [] ∨ ∃ before, head = before ++ ['/']) :
    trimmed (closed (trimmed head)) = trimmed head := by
  by_cases slashes : head.all (· == '/') = true
  · have kept : trimmed head = head := if_pos slashes
    rcases whole with rfl | ⟨before, rfl⟩
    · rfl
    · rw [kept, closed_concat_slash, kept]
  · have cut : trimmed head = Text.dropWhileEnd (· == '/') head := if_neg slashes
    cases rest : head.reverse.dropWhile (· == '/') with
    | nil =>
      rw [List.dropWhile_eq_nil_iff] at rest
      exact absurd (by simpa using rest) slashes
    | cons last before =>
      have stopped := List.head_dropWhile_not (p := (· == '/')) (l := head.reverse) (by simp [rest])
      have other : (last == '/') = false := by simpa [rest] using stopped
      have ends : trimmed head = before.reverse ++ [last] := by
        rw [cut, Text.dropWhileEnd, rest, List.reverse_cons]
      have behind : closed (trimmed head) = before.reverse ++ [last] ++ ['/'] := by
        rw [ends, closed, if_neg]
        simpa using other
      rw [behind, ends, trimmed, if_neg (by simp [other]), dropWhileEnd_concat_slash]
      simp [Text.dropWhileEnd, other]

/-- What is joined to the directory of a path has this directory. -/
theorem directory_join_directory (path : List Char) {component : List Char} (free : SlashFree component) :
    directory (join (directory path) component) = directory path := by
  have through : throughLastSlash (join (directory path) component) = closed (directory path) := by
    rw [join_eq_closed_append _ free, throughLastSlash_append free, throughLastSlash_closed]
  rw [directory_eq_trimmed, through, directory_eq_trimmed]
  exact trimmed_closed_trimmed (throughLastSlash_eq_nil_or path)

/-! ## All components -/

theorem components_of_slashFree {text : List Char} (free : SlashFree text) : components text = [text] := by
  induction text with
  | nil => rfl
  | cons character rest inductionHypothesis =>
    obtain ⟨other, others⟩ : isComponentChar character = true ∧ SlashFree rest := by
      simpa [SlashFree] using free
    have noSlash : (character == '/') = false := by simpa [isComponentChar] using other
    simp [components, noSlash, inductionHypothesis others]

theorem components_ne_nil (path : List Char) : components path ≠ [] := by
  cases path with
  | nil => simp [components]
  | cons character rest =>
    rw [components]
    split
    · simp
    · split <;> simp

theorem components_append_slash (before after : List Char) :
    components (before ++ '/' :: after) = components before ++ components after := by
  induction before with
  | nil => rfl
  | cons character rest inductionHypothesis =>
    rw [List.cons_append, components, components, inductionHypothesis]
    split
    · rfl
    · cases parts : components rest with
      | nil => exact absurd parts (components_ne_nil rest)
      | cons first others => rfl

/-- The last component of a path is the last of its components. -/
theorem components_eq_append (path : List Char) :
    ∃ before, components path = before ++ [lastComponent path] := by
  have last := components_of_slashFree (slashFree_lastComponent path)
  obtain whole | ⟨before, whole⟩ := eq_lastComponent_or path
  · refine ⟨[], ?_⟩
    rw [List.nil_append, ← last, ← whole]
  · refine ⟨components before, ?_⟩
    rw [← last, ← components_append_slash, ← whole]

/-! ## Documents and model dumps -/

/-- A document carries its extension. -/
theorem exists_document_eq (path : List Char) : ∃ base, document path = base ++ documentExtension := by
  rw [document, ensureSuffix]
  split
  · rename_i present
    obtain ⟨base, whole⟩ := List.isSuffixOf_iff_suffix.mp present
    exact ⟨base, whole.symm⟩
  · exact ⟨path, rfl⟩

theorem slashFree_documentExtension : SlashFree documentExtension := by decide

theorem slashFree_dumpExtension : SlashFree dumpExtension := by decide

/-- Nothing ends with both extensions. -/
theorem append_documentExtension_ne (first second : List Char) :
    first ++ documentExtension ≠ second ++ dumpExtension := by
  intro same
  have cut : dumpExtension = ['.', 'm', 'o', 'd', 'e', 'l', '.'] ++ ['y', 'a', 'm', 'l'] := rfl
  rw [cut, ← List.append_assoc] at same
  have endings : documentExtension = ['y', 'a', 'm', 'l'] := (List.append_inj' same rfl).2
  exact absurd endings (by decide)

theorem suffix_document (path : List Char) : documentExtension <:+ document path := by
  obtain ⟨base, whole⟩ := exists_document_eq path
  exact ⟨base, whole.symm⟩

/-- A path that has the extension of a document is kept. -/
theorem document_of_suffix {path : List Char} (ends : documentExtension <:+ path) : document path = path := by
  rw [document, ensureSuffix, if_pos (List.isSuffixOf_iff_suffix.mpr ends)]

/-- The path of a document is its own document's. -/
theorem document_document (path : List Char) : document (document path) = document path :=
  document_of_suffix (suffix_document path)

theorem lastComponent_document (path : List Char) :
    ∃ base, lastComponent (document path) = base ++ documentExtension := by
  obtain ⟨base, whole⟩ := exists_document_eq path
  exact ⟨lastComponent base, by rw [whole, lastComponent_append _ slashFree_documentExtension]⟩

theorem lastComponent_dump (path : List Char) :
    ∃ base, lastComponent (dump path) = base ++ dumpExtension :=
  ⟨lastComponent (withoutExtension path), lastComponent_append _ slashFree_dumpExtension⟩

theorem two_lt_length_document (path : List Char) : 2 < (lastComponent (document path)).length := by
  obtain ⟨base, last⟩ := lastComponent_document path
  simp only [last, List.length_append, documentExtension, List.length_cons, List.length_nil]
  omega

theorem two_lt_length_dump (path : List Char) : 2 < (lastComponent (dump path)).length := by
  obtain ⟨base, last⟩ := lastComponent_dump path
  simp only [last, List.length_append, dumpExtension, List.length_cons, List.length_nil]
  omega

/-- The last components of a document and of a model dump differ. -/
theorem lastComponent_document_ne_dump (first second : List Char) :
    lastComponent (document first) ≠ lastComponent (dump second) := by
  obtain ⟨base, ofDocument⟩ := lastComponent_document first
  obtain ⟨other, ofDump⟩ := lastComponent_dump second
  rw [ofDocument, ofDump]
  exact append_documentExtension_ne base other

/-! ## The document and the model dump of a trace -/

section Trace

variable (outputDirectory : Option (List Char)) (trace : List Char)

theorem slashFree_stem_append_documentExtension : SlashFree (stem trace ++ documentExtension) := by
  rw [SlashFree, List.all_append, Bool.and_eq_true]
  exact ⟨slashFree_stem trace, slashFree_documentExtension⟩

theorem lastComponent_defaultOutput :
    lastComponent (defaultOutput outputDirectory trace) = stem trace ++ documentExtension :=
  lastComponent_join _ (slashFree_stem_append_documentExtension trace)

/-- The path that belongs to a trace is the path of a document as it is. -/
theorem document_defaultOutput :
    document (defaultOutput outputDirectory trace) = defaultOutput outputDirectory trace := by
  exact document_of_suffix ((List.suffix_append _ _).trans (suffix_join _ _))

/-- Only a trace that has the extension of a document can be named like its document. -/
theorem extension_of_lastComponent_defaultOutput
    (same : lastComponent (defaultOutput outputDirectory trace) = lastComponent trace) :
    extension trace = documentExtension := by
  rw [lastComponent_defaultOutput, ← stem_append_extension trace] at same
  exact (List.append_cancel_left same).symm

/-- The model dump of a trace has more dots in its name than the trace. -/
theorem lastComponent_dump_defaultOutput_ne :
    lastComponent (dump (defaultOutput outputDirectory trace)) ≠ lastComponent trace := by
  -- Cutting an extension off takes one dot at most, and the extension of a model dump brings two.
  have named := splitComponent_append (lastComponent (defaultOutput outputDirectory trace))
  have shorter := count_dot_splitComponent_le (lastComponent (defaultOutput outputDirectory trace))
  have dots := congrArg (List.count '.') named
  have ofTrace := congrArg (List.count '.') (stem_append_extension trace)
  have single : (extension trace).count '.' ≤ 1 := count_dot_splitComponent_le (lastComponent trace)
  have document : documentExtension.count '.' = 1 := by decide
  have model : dumpExtension.count '.' = 2 := by decide
  intro same
  have total := congrArg (List.count '.') same
  rw [dump, lastComponent_append _ slashFree_dumpExtension, lastComponent_withoutExtension,
    List.count_append, model] at total
  rw [List.count_append, lastComponent_defaultOutput, List.count_append, document] at dots
  rw [List.count_append] at ofTrace
  rw [lastComponent_defaultOutput] at shorter
  rw [stem, lastComponent_defaultOutput] at total
  omega

end Trace

end TraceAutomata.Path
