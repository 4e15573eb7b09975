import TraceAutomata.Builder
import TraceAutomata.Calendar
import TraceAutomata.Command
import TraceAutomata.CommandLine.Argument
import TraceAutomata.CommandLine.Options
import TraceAutomata.CommandLine.Run
import TraceAutomata.CommandLine.Usage
import TraceAutomata.Config
import TraceAutomata.Config.File
import TraceAutomata.Context
import TraceAutomata.Demonstration
import TraceAutomata.Document.Value
import TraceAutomata.Document.ValueFault
import TraceAutomata.Dump
import TraceAutomata.Dump.Document
import TraceAutomata.Expression
import TraceAutomata.FileSystem
import TraceAutomata.Handle
import TraceAutomata.Journal
import TraceAutomata.Json.Reader
import TraceAutomata.Json.Writer
import TraceAutomata.Main
import TraceAutomata.Network
import TraceAutomata.Number.Binary64
import TraceAutomata.Number.ShortestDecimal
import TraceAutomata.Output
import TraceAutomata.Path
import TraceAutomata.Registry
import TraceAutomata.Runtime
import TraceAutomata.Runtime.Standard
import TraceAutomata.Text.Base64
import TraceAutomata.Text.Blank
import TraceAutomata.Text.CaseRun
import TraceAutomata.Text.CodeRange
import TraceAutomata.Text.DecimalDigit
import TraceAutomata.Text.Lines
import TraceAutomata.Text.LowerCase
import TraceAutomata.Text.Numeral
import TraceAutomata.Text.Printable
import TraceAutomata.Text.Quoted
import TraceAutomata.Text.UpperCase
import TraceAutomata.Text.Utf8
import TraceAutomata.Trace.Reader
import TraceAutomata.Trace.Statement
import TraceAutomata.Transformation
import TraceAutomata.Traversal
import TraceAutomata.Xml.Document
import TraceAutomata.Xml.Escape
import TraceAutomata.Xml.Line
import TraceAutomata.Yaml.Anchor
import TraceAutomata.Yaml.Cursor
import TraceAutomata.Yaml.Folding
import TraceAutomata.Yaml.Graph
import TraceAutomata.Yaml.Graph.Reader
import TraceAutomata.Yaml.Parts
import TraceAutomata.Yaml.Pen
import TraceAutomata.Yaml.Reader
import TraceAutomata.Yaml.Resolution
import TraceAutomata.Yaml.Scalar
import TraceAutomata.Yaml.Source
import TraceAutomata.Yaml.Style
import TraceAutomata.Yaml.Token
import TraceAutomata.Yaml.Token.Lexer
import TraceAutomata.Yaml.Token.Scalar
import TraceAutomata.Yaml.Unfolding
import TraceAutomata.Yaml.Writer
import TraceAutomata.Proofs.Builder.Outcome
import TraceAutomata.Proofs.Builder.Effect
import TraceAutomata.Proofs.Builder.Integrity
import TraceAutomata.Proofs.Builder.Failure
import TraceAutomata.Proofs.Builder.Numbering
import TraceAutomata.Proofs.Chain.Shape
import TraceAutomata.Proofs.Chain.Construction
import TraceAutomata.Proofs.Chain.Execution
import TraceAutomata.Proofs.Xml.Substitution
import TraceAutomata.Proofs.Xml.Legible
import TraceAutomata.Proofs.Xml.View
import TraceAutomata.Proofs.Xml.Distinct
import TraceAutomata.Proofs.Xml.Marks
import TraceAutomata.Proofs.Xml.References
import TraceAutomata.Proofs.Xml.Decoding
import TraceAutomata.Proofs.Xml.Labels
import TraceAutomata.Proofs.Chain.Transcript
import TraceAutomata.Proofs.Dump.Reading
import TraceAutomata.Proofs.Dump.RoundTrip
import TraceAutomata.Proofs.Json.Scalar
import TraceAutomata.Proofs.Json.RoundTrip
import TraceAutomata.Proofs.Json.Sorting
import TraceAutomata.Proofs.Builder.Creation
import TraceAutomata.Proofs.Builder.Naming
import TraceAutomata.Proofs.Builder.Frame
import TraceAutomata.Proofs.Builder.Growth
import TraceAutomata.Proofs.Xml.Validation
import TraceAutomata.Proofs.Dump.Rendering
import TraceAutomata.Proofs.Transformation.Course
import TraceAutomata.Proofs.Path
import TraceAutomata.Proofs.Path.Extension
import TraceAutomata.Proofs.FileSystem
import TraceAutomata.Proofs.Transformation.Delivery
import TraceAutomata.Proofs.Transformation.Reuse
import TraceAutomata.Proofs.Transformation.Turns
import TraceAutomata.Proofs.Transformation.Sharing
import TraceAutomata.Proofs.Builder.Restart
import TraceAutomata.Proofs.Chain.Rearrangement
import TraceAutomata.Proofs.Document.Within
import TraceAutomata.Proofs.Transformation.Footprint
import TraceAutomata.Proofs.Trace.Row
import TraceAutomata.Proofs.Trace.Faults
import TraceAutomata.Proofs.Trace.Document
import TraceAutomata.Proofs.Transformation.Escapes
import TraceAutomata.Proofs.Saving
import TraceAutomata.Proofs.Output
import TraceAutomata.Proofs.Dump.Repeats
import TraceAutomata.Proofs.Config
import TraceAutomata.Proofs.CommandLine
import TraceAutomata.Proofs.Config.Acceptance
import TraceAutomata.Proofs.CommandLine.Withheld
import TraceAutomata.Proofs.CommandLine.Settings
import TraceAutomata.Proofs.Text.LineEnds
import TraceAutomata.Proofs.Xml.Processor
import TraceAutomata.Proofs.Xml.ReadBack
