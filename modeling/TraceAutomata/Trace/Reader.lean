import TraceAutomata.FileSystem
import TraceAutomata.Journal
import TraceAutomata.Text.Blank
import TraceAutomata.Text.LowerCase
import TraceAutomata.Trace.Statement
import TraceAutomata.Yaml.Reader

/-!
# Reading traces

A trace document is a list of rows, or a mapping that has such a list. A row is a mapping with a kind, a
scope unless it is local, and one expression or a list of them. Expressions that are null or blank are
left out with a warning, and so are rows without any other expression; everything else that does not fit
is an error that names the row. Rows are numbered from one.
-/

namespace TraceAutomata

/-- Why a document is no trace. -/
inductive TraceError
  | fileNotFound (path : String)
  | unreadable (path detail : String)
  | malformed
  | notAMapping
  | statementsNotAList
  | rowNotAMapping (row : Nat) (kind : String)
  | missingKind (row : Nat)
  | unknownKind (row : Nat) (shown : String)
  | unknownScope (row : Nat) (shown : String)
  | expressionsNotAList (row : Nat)
  | missingExpression (row : Nat)
  deriving DecidableEq, Repr

namespace TraceError

variable [Runtime]

/-- The start of a message about a row. -/
def aboutRow (row : Nat) (rest : String) : String :=
  "Statement " ++ Text.decimal row ++ ": " ++ rest

/-- The message about a word that is none of some keywords. -/
def unknownWord (row : Nat) (what shown : String) (keywords : List String) : String :=
  aboutRow row ("unknown " ++ what ++ " " ++ shown ++ ", expected one of "
    ++ Text.bracketed (keywords.map Text.quoted))

/-- The wording of an error. The detail of a malformed document is not given. -/
def message : TraceError → String
  | .fileNotFound path => "Trace file not found: " ++ path
  | .unreadable path detail => "Cannot read trace file " ++ path ++ ": " ++ detail
  | .malformed => "Invalid trace document: YAML"
  | .notAMapping => "Trace must be a mapping with a 'statements' list"
  | .statementsNotAList => "'statements' must be a list"
  | .rowNotAMapping row kind => aboutRow row ("expected a mapping, got " ++ kind)
  | .missingKind row => aboutRow row "missing 'kind'"
  | .unknownKind row shown =>
    unknownWord row "StatementKind" shown (StatementKind.keywords.map Prod.fst)
  | .unknownScope row shown =>
    unknownWord row "DeclarationScope" shown (DeclarationScope.keywords.map Prod.fst)
  | .expressionsNotAList row => aboutRow row "'expressions' must be a list"
  | .missingExpression row => aboutRow row "missing 'expression' or 'expressions'"

end TraceError

/-- What keeps a trace from being read: an error of the document, or a value that does not exist or
cannot be written. -/
inductive TraceFault
  | refused (error : TraceError)
  | value (fault : ValueFault)
  deriving DecidableEq, Repr

namespace Trace

variable [Runtime]

/-- A reading, with the warnings it gives. -/
abbrev Reading (α : Type) := Journaled TraceFault α

/-- End a reading with an error of the document. -/
def refuse {α : Type} (error : TraceError) : Reading α :=
  Journaled.fail (.refused error)

/-- Use a text that may not be writable. -/
def fromValue {α : Type} (outcome : Except ValueFault α) : Reading α :=
  Journaled.ofExcept (outcome.mapError .value)

/-- The meaning of a keyword, in any letter case and with blanks around it; `refusal` makes the error of a
word that is none of the keywords, which it shows. -/
def readKeyword {α : Type} (keywords : List (String × α)) (refusal : String → TraceError)
    (value : Value) : Reading α := do
  let word ← fromValue value.plainText
  match keywords.lookup (Text.lowerCase (Text.trim word)) with
  | some meaning => return meaning
  | none => refuse (refusal (← fromValue value.shownText))

/-- The values that stand for a row's expressions: a list of them, or a single one. -/
def rowExpressions (row : Nat) (entries : List (Value × Value)) : Reading (List Value) :=
  match (Value.lookup "expressions" entries).map Value.content with
  | some (.list items) => return items
  | some _ => refuse (.expressionsNotAList row)
  | none =>
    match Value.lookup "expression" entries with
    | some single => return [single]
    | none => refuse (.missingExpression row)

/-- The text of an expression without blanks around it; null has none. -/
def expressionText : Value → Reading String
  | .null => return ""
  | value => do return Text.trim (← fromValue value.plainText)

/-- The texts of a row's expressions that are not empty; each empty one gives a warning. -/
def readExpressions (row : Nat) : List Value → Reading (List String)
  | [] => return []
  | value :: rest => do
    let text ← expressionText value
    if text.isEmpty then
      Journaled.report (.expressionSkipped row)
      readExpressions row rest
    else
      let others ← readExpressions row rest
      return text :: others

/-- The comment of a row. -/
def readComment (entries : List (Value × Value)) : Reading (Option String) :=
  match Value.lookup "comment" entries with
  | none => return none
  | some .null => return none
  | some value => do return some (← fromValue value.plainText)

/-- The statement of a row, unless no expression is left in it. -/
def readRow (row : Nat) (value : Value) : Reading (Option Statement) :=
  match value.content with
  | .mapping entries => do
    match Value.lookup "kind" entries with
    | none => refuse (.missingKind row)
    | some kindValue =>
      let kind ← readKeyword StatementKind.keywords (.unknownKind row) kindValue
      let scopeValue := (Value.lookup "scope" entries).getD (.text DeclarationScope.localScope.keyword)
      let scope ← readKeyword DeclarationScope.keywords (.unknownScope row) scopeValue
      let values ← rowExpressions row entries
      let expressions ← readExpressions row values
      if expressions.isEmpty then return none
      else
        let comment ← readComment entries
        return some { kind, expressions, comment, scope }
  | other => refuse (.rowNotAMapping row other.kindName)

/-- The statements of rows; `row` is the number of the first. -/
def readRows (row : Nat) : List Value → Reading (List Statement)
  | [] => return []
  | value :: rest => do
    let statement ← readRow row value
    let others ← readRows (row + 1) rest
    return statement.toList ++ others

/-- The name of a trace when neither the document nor the caller gives one. -/
def defaultName : String := "Trace"

/-- The name of a trace: the one in the document if it counts as present, else the given one unless it is
empty. -/
def readName (given : Option String) (entries : List (Value × Value)) : Reading String :=
  let named := (Value.lookup "name" entries).getD .null
  if named.isTruthy then fromValue named.plainText
  else
    match given with
    | some name => return if name.isEmpty then defaultName else name
    | none => return defaultName

/-- The rows of a document: null and everything else that does not count as present are no rows. -/
def documentRows (entries : List (Value × Value)) : Reading (List Value) :=
  match (Value.lookup "statements" entries).map Value.content with
  | some (.list rows) => return rows
  | some other => if other.isTruthy then refuse .statementsNotAList else return []
  | none => return []

/-- The trace that a value describes. -/
def ofValue (given : Option String) (value : Value) : Reading Trace := do
  let entries ←
    match value.content with
    | .list _ => pure [(.text "statements", value)]
    | .mapping entries => pure entries
    | _ => refuse .notAMapping
  let rows ← documentRows entries
  let statements ← readRows 1 rows
  let name ← readName given entries
  return { name, statements }

/-- The trace that a text describes. -/
def ofText (given : Option String) (text : String) : Reading Trace :=
  match Yaml.read text with
  | .error (.value fault) => Journaled.fail (.value fault)
  | .error _ => refuse .malformed
  | .ok value => ofValue given value

/-- The text of a trace file. -/
def readFile (files : FileSystem) (path : String) : Except TraceFault String :=
  match files.readFile path.toList with
  | .error (.value fault) => .error (.value fault)
  | .error (.refused ⟨.noSuchFile, _⟩) => .error (.refused (.fileNotFound path))
  | .error (.refused fault) => .error (.refused (.unreadable path fault.message))
  | .ok bytes =>
    (Text.decodeLines bytes).mapError fun fault => .refused (.unreadable path fault.message)

/-- The trace in a file. When no name is given, the name of the file without its extension is. -/
def ofFile (files : FileSystem) (path : String) (given : Option String) : Reading Trace := do
  let text ← Journaled.ofExcept (readFile files path)
  ofText (some (given.getD (String.ofList (Path.stem path.toList)))) text

end Trace

end TraceAutomata
