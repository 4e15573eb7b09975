import TraceAutomata.Text.Lines
import TraceAutomata.Xml.Escape

/-!
# Lines of markup

A document as lines: tags, elements on a line of their own, and texts inside the element that is open.
Texts and attribute values are held as they are meant and escaped when the line is written, so nothing
in them can be taken for markup.
-/

namespace TraceAutomata.Xml

/-- The elements of a document. -/
inductive Element
  | network
  | declaration
  | template
  | name
  | location
  | label
  | initial
  | transition
  | source
  | target
  | system
  deriving DecidableEq, Repr

/-- The name of an element in its tags. -/
def Element.tag : Element → String
  | .network => "nta"
  | .declaration => "declaration"
  | .template => "template"
  | .name => "name"
  | .location => "location"
  | .label => "label"
  | .initial => "init"
  | .transition => "transition"
  | .source => "source"
  | .target => "target"
  | .system => "system"

/-- The attributes that an element can have. -/
inductive AttributeKey
  | id
  | ref
  | kind
  deriving DecidableEq, Repr

/-- The name of an attribute. -/
def AttributeKey.text : AttributeKey → String
  | .id => "id"
  | .ref => "ref"
  | .kind => "kind"

/-- An attribute with its value. -/
structure Attribute where
  key : AttributeKey
  value : String
  deriving DecidableEq, Repr

/-- An attribute inside a tag, after a blank. -/
def Attribute.text (mark : Attribute) : String :=
  " " ++ mark.key.text ++ "=\"" ++ escapeAttribute mark.value ++ "\""

/-- A line of a document. -/
inductive Line
  /-- A line that is written as it is. -/
  | verbatim (text : String)
  /-- A start tag. -/
  | opening (element : Element) (mark : Option Attribute)
  /-- An end tag. -/
  | closing (element : Element)
  /-- An element that holds a text and nothing else. -/
  | whole (element : Element) (mark : Option Attribute) (held : String)
  /-- An element that holds nothing. -/
  | empty (element : Element) (mark : Attribute)
  /-- A text inside the element that is open. -/
  | content (text : String)
  deriving DecidableEq, Repr

namespace Line

/-- An attribute inside a tag, if there is one. -/
def attributeText (mark : Option Attribute) : String :=
  (mark.map Attribute.text).getD ""

/-- The start tag of an element. -/
def startTag (element : Element) (mark : Option Attribute) : String :=
  "<" ++ element.tag ++ attributeText mark ++ ">"

/-- The end tag of an element. -/
def endTag (element : Element) : String :=
  "</" ++ element.tag ++ ">"

/-- A line as it is written. -/
def text : Line → String
  | .verbatim text => text
  | .opening element mark => startTag element mark
  | .closing element => endTag element
  | .whole element mark held =>
    startTag element mark ++ escapeText held ++ endTag element
  | .empty element mark => "<" ++ element.tag ++ mark.text ++ "/>"
  | .content text => escapeText text

end Line

/-- Lines as they are written, each ended by a line feed. -/
def textOfLines (lines : List Line) : String :=
  Text.ofLines (lines.map Line.text)

end TraceAutomata.Xml
