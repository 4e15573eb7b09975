import TraceAutomata.Yaml.Cursor

/-!
# Tokens

The tokens of a document. Besides what is written they include the starts and ends of block collections,
which only the indentation shows, and the keys that are recognised by the colon after them.
-/

namespace TraceAutomata.Yaml

/-- A tag as written: a handle that a directive explains, or none, and what follows it. -/
structure TagText where
  handle : Option String
  suffix : String
  deriving DecidableEq, Repr

/-- A token. -/
inductive Token
  | versionDirective (major : Nat)
  | tagDirective (handle beginning : String)
  | otherDirective
  | documentStart
  | documentEnd
  | streamEnd
  | blockSequenceStart
  | blockMappingStart
  | blockEnd
  | flowSequenceStart
  | flowSequenceEnd
  | flowMappingStart
  | flowMappingEnd
  | blockEntry
  | flowEntry
  | key
  | value
  | alias (name : String)
  | anchor (name : String)
  | tag (written : TagText)
  | scalar (text : String) (isPlain : Bool)
  deriving DecidableEq, Repr

end TraceAutomata.Yaml
