import TraceAutomata.Proofs.Document.Within
import TraceAutomata.Proofs.Journal
import TraceAutomata.Trace.Reader

/-!
# Rows of a trace

A row of a trace document is described apart from how it is read: `Writes` says that a value is a mapping whose
entries give a kind, a scope, values that stand for expressions and a comment. A printable value is read without
an error exactly when it writes a row, and then the row decides the statement and the warnings
(`readRow_of_writes`, `writes_of_readRow`).
-/

namespace TraceAutomata

/-! ## Keywords -/

/-- A meaning is found under its own keyword only, if every keyword leads to the meaning it is listed with. -/
theorem lookup_keyword_iff {α : Type} {keywords : List (String × α)} {keyword : α → String}
    (own : ∀ listed ∈ keywords, listed.1 = keyword listed.2)
    (complete : ∀ meaning, keywords.lookup (keyword meaning) = some meaning) {text : String} {meaning : α} :
    keywords.lookup text = some meaning ↔ text = keyword meaning := by
  constructor
  · intro found
    obtain ⟨before, after, listed, -⟩ := List.lookup_eq_some_iff.mp found
    apply own (text, meaning)
    rw [listed]
    simp
  · rintro rfl
    exact complete meaning

theorem StatementKind.lookup_keywords_iff {text : String} {kind : StatementKind} :
    StatementKind.keywords.lookup text = some kind ↔ text = kind.keyword :=
  lookup_keyword_iff (by decide) (by rintro ⟨⟩ <;> rfl)

theorem DeclarationScope.lookup_keywords_iff {text : String} {scope : DeclarationScope} :
    DeclarationScope.keywords.lookup text = some scope ↔ text = scope.keyword :=
  lookup_keyword_iff (by decide) (by rintro ⟨⟩ <;> rfl)

namespace Trace

open Journaled

/-! ## The values of a row -/

section Values

variable {entries : List (Value × Value)}

/-- Entries give the values that stand for expressions: a list of them, or a single one if there is no entry for
a list. -/
def GivesValues (entries : List (Value × Value)) (values : List Value) : Prop :=
  match Value.lookup "expressions" entries with
  | some listed => listed.content = .list values
  | none => ∃ single, Value.lookup "expression" entries = some single ∧ values = [single]

/-- The values that stand for expressions stand within what is found under a key. -/
theorem within_of_givesValues {values : List Value} (given : GivesValues entries values) :
    ∀ value ∈ values, ∃ key found, Value.lookup key entries = some found ∧ Value.Within value found := by
  intro value among
  unfold GivesValues at given
  cases listed : Value.lookup "expressions" entries with
  | some list =>
    rw [listed] at given
    exact ⟨"expressions", list, listed, Value.within_of_mem_content given among⟩
  | none =>
    rw [listed] at given
    obtain ⟨single, found, rfl⟩ := given
    rw [List.mem_singleton.mp among]
    exact ⟨"expression", single, found, .self⟩

theorem rowExpressions_of_gives {number : Nat} {values : List Value} (given : GivesValues entries values) :
    rowExpressions number entries = pure values := by
  unfold GivesValues at given
  unfold rowExpressions
  cases listed : Value.lookup "expressions" entries with
  | some value =>
    rw [listed] at given
    simp only [Option.map_some, given]
  | none =>
    rw [listed] at given
    obtain ⟨single, found, rfl⟩ := given
    simp only [Option.map_none, found]

theorem gives_of_rowExpressions {number : Nat} {values : List Value}
    (read : (rowExpressions number entries).outcome = .ok values) : GivesValues entries values := by
  unfold rowExpressions at read
  unfold GivesValues
  cases listed : Value.lookup "expressions" entries with
  | some value =>
    rw [listed] at read
    dsimp only [Option.map_some] at read ⊢
    split at read
    · rename_i items content
      cases read
      exact Option.some.inj content
    · cases read
    · contradiction
  | none =>
    rw [listed] at read
    dsimp only [Option.map_none] at read ⊢
    split at read
    · cases read
      exact ⟨_, ‹_›, rfl⟩
    · cases read

end Values

@[simp] theorem fromValue_ok {α : Type} (result : α) : fromValue (.ok result) = pure result := rfl

/-! ## What a row says -/

variable [Runtime]

/-- The word that a value stands for: its text without the blanks around it, in small letters. -/
def word (value : Value) : String :=
  Text.lowerCase (Text.trim value.plain)

/-- The text of a value; null has none. -/
def text? : Value → Option String
  | .null => none
  | value => some value.plain

/-- The expression that a value stands for: its text without the blanks around it. Null stands for none, and so
does a text of blanks. -/
def expression? (value : Value) : Option String :=
  ((text? value).map Text.trim).filter fun text => !text.isEmpty

/-- The comment among some entries. -/
def comment? (entries : List (Value × Value)) : Option String :=
  (Value.lookup "comment" entries).bind text?

/-- What a row of a trace document says: the values stand for expressions. -/
structure Row where
  kind : StatementKind
  scope : DeclarationScope
  values : List Value
  comment : Option String

namespace Row

/-- The expressions of a row. -/
def expressions (row : Row) : List String :=
  row.values.filterMap expression?

/-- The statement of a row, if it has an expression. -/
def statement? (row : Row) : Option Statement :=
  if row.expressions.isEmpty then none
  else some { kind := row.kind, expressions := row.expressions, comment := row.comment, scope := row.scope }

/-- One warning for each value that stands for no expression, with the number of the row. -/
def warnings (row : Row) (number : Nat) : List Event :=
  (row.values.filter fun value => (expression? value).isNone).map fun _ => .expressionSkipped number

end Row

/-- Entries give a scope, or none and then it is the local one. -/
def GivesScope (entries : List (Value × Value)) (scope : DeclarationScope) : Prop :=
  match Value.lookup "scope" entries with
  | some value => word value = scope.keyword
  | none => scope = .localScope

/-- Entries say what a row says. -/
structure Says (entries : List (Value × Value)) (row : Row) : Prop where
  kind : ∃ value, Value.lookup "kind" entries = some value ∧ word value = row.kind.keyword
  scope : GivesScope entries row.scope
  values : GivesValues entries row.values
  comment : row.comment = comment? entries

/-- A value is a mapping whose entries say what a row says. -/
def Writes (value : Value) (row : Row) : Prop :=
  ∃ entries, value.content = .mapping entries ∧ Says entries row

/-! ## How it is read -/

variable {value : Value} {entries : List (Value × Value)} {row : Row}

section Keywords

variable {α : Type} {keywords : List (String × α)} {refusal : String → TraceError} {meaning : α}
  (printable : value.Printable)
include printable

theorem readKeyword_of_lookup (refusal : String → TraceError)
    (found : keywords.lookup (word value) = some meaning) :
    readKeyword keywords refusal value = pure meaning := by
  rw [readKeyword, printable.plainText_eq, fromValue_ok, pure_then]
  change keywords.lookup (Text.lowerCase (Text.trim value.plain)) = _ at found
  rw [found]

theorem lookup_of_readKeyword (read : (readKeyword keywords refusal value).outcome = .ok meaning) :
    keywords.lookup (word value) = some meaning := by
  cases found : keywords.lookup (word value) with
  | some other =>
    rw [readKeyword_of_lookup printable refusal found] at read
    exact congrArg some (Except.ok.inj read)
  | none =>
    rw [readKeyword, printable.plainText_eq, fromValue_ok, pure_then] at read
    change keywords.lookup (Text.lowerCase (Text.trim value.plain)) = _ at found
    rw [found, printable.shownText_eq] at read
    cases read

end Keywords

/-- The word for the local scope stands in for a scope that is not given. -/
theorem givesScope_iff {scope : DeclarationScope} :
    GivesScope entries scope ↔ DeclarationScope.keywords.lookup (word ((Value.lookup "scope" entries).getD
      (.text DeclarationScope.localScope.keyword))) = some scope := by
  rw [DeclarationScope.lookup_keywords_iff, GivesScope]
  cases Value.lookup "scope" entries with
  | some value => exact Iff.rfl
  | none =>
    have same : word (.text DeclarationScope.localScope.keyword) = DeclarationScope.localScope.keyword := by
      change Text.lowerCase (Text.trim DeclarationScope.localScope.keyword) = _
      decide +kernel
    rw [Option.getD_none, same]
    change scope = .localScope ↔ _
    cases scope <;> decide

/-- A scope that is not given is printable, too. -/
theorem printable_scope (printable : ∀ scope, Value.lookup "scope" entries = some scope → scope.Printable) :
    ((Value.lookup "scope" entries).getD (.text DeclarationScope.localScope.keyword)).Printable := by
  cases found : Value.lookup "scope" entries with
  | none => exact Value.printable_text _
  | some scope => exact printable scope found

/-- The text of an expression is empty when the value stands for none. -/
theorem expressionText_eq (printable : value.Printable) :
    expressionText value = pure ((expression? value).getD "") := by
  have read : expressionText value = pure (((text? value).map Text.trim).getD "") := by
    cases value with
    | null => rfl
    | _ =>
      simp only [expressionText, printable.plainText_eq]
      rfl
  rw [read, expression?]
  cases (text? value).map Text.trim with
  | none => rfl
  | some text => by_cases blank : text = "" <;> simp [Option.filter, blank]

theorem ne_empty_of_expression? {text : String} (stands : expression? value = some text) : text ≠ "" := by
  have kept := (Option.filter_eq_some_iff.mp stands).2
  rintro rfl
  contradiction

/-- The values that stand for expressions are read as these, with a warning for each of the others. -/
theorem readExpressions_eq (number : Nat) {values : List Value}
    (printable : ∀ value ∈ values, value.Printable) :
    readExpressions number values =
      ⟨(values.filter fun value => (expression? value).isNone).map fun _ => .expressionSkipped number,
        .ok (values.filterMap expression?)⟩ := by
  induction values with
  | nil => rfl
  | cons value rest inductionHypothesis =>
    obtain ⟨own, others⟩ := List.forall_mem_cons.mp printable
    rw [readExpressions, expressionText_eq own, pure_then, inductionHypothesis others]
    cases stands : expression? value with
    | none =>
      rw [List.filter_cons_of_pos (by simp [stands]), List.filterMap_cons_none stands, List.map_cons]
      rfl
    | some text =>
      have present : (some text).getD "" ≠ "" := ne_empty_of_expression? stands
      rw [List.filter_cons_of_neg (by simp [stands]), List.filterMap_cons_some stands]
      simp only [String.isEmpty_iff, present, if_false, ok_bind]
      simp [pure]

theorem readComment_eq (printable : ∀ comment, Value.lookup "comment" entries = some comment → comment.Printable) :
    readComment entries = pure (comment? entries) := by
  unfold readComment comment?
  cases found : Value.lookup "comment" entries with
  | none => rfl
  | some value =>
    have own := printable value found
    cases value with
    | null => rfl
    | _ =>
      simp only [own.plainText_eq]
      rfl

/-- Once its keywords are read, the values of a row are read, and its comment if an expression is left. -/
theorem readRow_of_entries (number : Nat) (mapping : value.content = .mapping entries) (said : Says entries row)
    (ofKind : ∀ kind, Value.lookup "kind" entries = some kind → kind.Printable)
    (ofScope : ∀ scope, Value.lookup "scope" entries = some scope → scope.Printable) :
    readRow number value = (do
      let expressions ← readExpressions number row.values
      if expressions.isEmpty then return none
      else
        let comment ← readComment entries
        return some { kind := row.kind, expressions, comment, scope := row.scope }) := by
  obtain ⟨kind, found, named⟩ := said.kind
  have kindRead : readKeyword StatementKind.keywords (.unknownKind number) kind = pure row.kind :=
    readKeyword_of_lookup (ofKind kind found) _ (StatementKind.lookup_keywords_iff.mpr named)
  have scopeRead := readKeyword_of_lookup (printable_scope ofScope) (.unknownScope number)
    (givesScope_iff.mp said.scope)
  unfold readRow
  rw [mapping]
  dsimp only
  rw [found]
  dsimp only
  rw [kindRead, pure_then, scopeRead, pure_then, rowExpressions_of_gives said.values, pure_then]

/-- A printable value that writes a row is read as the statement of the row, with its warnings. -/
theorem readRow_of_writes (number : Nat) (printable : value.Printable) (written : Writes value row) :
    readRow number value = ⟨row.warnings number, .ok row.statement?⟩ := by
  obtain ⟨entries, mapping, said⟩ := written
  have within : (Value.mapping entries).Printable := mapping ▸ printable.content
  have ofKey (key : String) : ∀ found, Value.lookup key entries = some found → found.Printable :=
    fun _ listed => within.of_within (Value.within_of_lookup listed)
  have valuesPrintable : ∀ value ∈ row.values, value.Printable := by
    intro value among
    obtain ⟨key, listed, found, here⟩ := within_of_givesValues said.values value among
    exact (ofKey key listed found).of_within here
  have valuesRead : readExpressions number row.values = ⟨row.warnings number, .ok row.expressions⟩ :=
    readExpressions_eq number valuesPrintable
  rw [readRow_of_entries number mapping said (ofKey "kind") (ofKey "scope"), valuesRead, ok_bind,
    readComment_eq (ofKey "comment"), pure_then]
  -- What follows the expressions reports nothing.
  rw [← said.comment, Row.statement?]
  cases row.expressions.isEmpty <;> simp [pure]

/-- A printable value that is read without an error writes a row. -/
theorem writes_of_readRow {number : Nat} (printable : value.Printable)
    (read : (readRow number value).Succeeds) : ∃ row, Writes value row := by
  unfold readRow at read
  split at read
  · rename_i entries mapping
    have within : (Value.mapping entries).Printable := mapping ▸ printable.content
    have ofScope (scope : Value) (given : Value.lookup "scope" entries = some scope) : scope.Printable :=
      within.of_within (Value.within_of_lookup given)
    split at read
    · exact absurd read (not_succeeds_fail _)
    · rename_i kind found
      obtain ⟨kind, kindRead, read⟩ := succeeds_bind_iff.mp read
      obtain ⟨scope, scopeRead, read⟩ := succeeds_bind_iff.mp read
      obtain ⟨values, valuesRead, -⟩ := succeeds_bind_iff.mp read
      have named := lookup_of_readKeyword (within.of_within (Value.within_of_lookup found)) kindRead
      refine ⟨{ kind, scope, values, comment := comment? entries }, entries, mapping, ?_⟩
      constructor
      · exact ⟨_, found, StatementKind.lookup_keywords_iff.mp named⟩
      · exact givesScope_iff.mpr (lookup_of_readKeyword (printable_scope ofScope) scopeRead)
      · exact gives_of_rowExpressions valuesRead
      · rfl
  · exact absurd read (not_succeeds_fail _)

end Trace

end TraceAutomata
