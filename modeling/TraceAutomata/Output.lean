import TraceAutomata.Config
import TraceAutomata.Dump.Document
import TraceAutomata.FileSystem
import TraceAutomata.Xml.Document

/-!
# Output files

Where the document and the model dump of a network go, and how they are saved. A file that cannot be
opened is reported and nothing is saved; a network that cannot be rendered fails before any file is
touched. A document with surrogates in it is found to have no encoding only when its file is open and empty.
-/

namespace TraceAutomata

namespace Path

/-- The extension of a document. -/
def documentExtension : List Char := ['.', 'x', 'm', 'l']

/-- The extension of a model dump. -/
def dumpExtension : List Char := ['.', 'm', 'o', 'd', 'e', 'l', '.', 'y', 'a', 'm', 'l']

/-- The path that a document is written to. -/
def document (path : List Char) : List Char :=
  ensureSuffix documentExtension path

/-- The path of the model dump that belongs to a path. -/
def dump (path : List Char) : List Char :=
  withoutExtension path ++ dumpExtension

/-- The path of the document of a trace when no other is given: next to the trace, or in the directory
that the settings name. -/
def defaultOutput (outputDirectory : Option (List Char)) (trace : List Char) : List Char :=
  let chosen :=
    match outputDirectory with
    | some (first :: rest) => first :: rest
    | _ => directory trace
  join chosen (stem trace ++ documentExtension)

end Path

/-- The path of the document of a trace under some settings, when no other is given. -/
def Config.defaultOutput (config : Config) (trace : String) : String :=
  String.ofList (Path.defaultOutput (config.outputDirectory.map String.toList) trace.toList)

/-- Why saving fails without being reported. What refuses to render is a parameter: networks and dumps do so
for different reasons. -/
inductive SaveFault (Refusal : Type := RenderError)
  | render (error : Refusal)
  | value (fault : ValueFault)
  deriving DecidableEq, Repr

/-- The files after saving, the events it reported, and the path written, if one was. -/
structure Saved (Refusal : Type := RenderError) where
  files : FileSystem
  events : List Event
  outcome : Except (SaveFault Refusal) (Option String)

variable [Runtime]

/-- Save a document that may not be rendered. The file is emptied before the document is encoded. -/
def saveRendered {Refusal : Type} (rendered : Journaled Refusal String) (path : String)
    (files : FileSystem) : Saved Refusal :=
  let target := String.ofList (Path.document path.toList)
  match rendered.outcome with
  | .error error => ⟨files, rendered.events, .error (.render error)⟩
  | .ok document =>
    match files.placeToWrite target.toList with
    | .error (.value fault) => ⟨files, rendered.events, .error (.value fault)⟩
    | .error (.refused fault) =>
      ⟨files, rendered.events ++ [.documentNotWritten target fault.message], .ok none⟩
    | .ok place =>
      match Text.encode document with
      | .error fault => ⟨files.put place (.file []), rendered.events, .error (.value (.notEncodable fault))⟩
      | .ok bytes =>
        ⟨files.put place (.file bytes), rendered.events ++ [.documentWritten target], .ok (some target)⟩

/-- Save the document of a network. -/
def saveDocument (network : Network) (path : String) (files : FileSystem) : Saved :=
  saveRendered (Xml.render network) path files

/-- Save the document of a dump. -/
def saveDumpDocument (dump : Dump) (path : String) (files : FileSystem) : Saved DumpRenderError :=
  saveRendered dump.render path files

/-- Save a dump next to a path. The file is opened before the dump is written, so a dump that cannot be
written leaves it empty. -/
def saveDump (dump : Dump) (path : String) (files : FileSystem) : Saved :=
  let target := String.ofList (Path.dump path.toList)
  match files.writeFile target.toList [] with
  | .error (.value fault) => ⟨files, [], .error (.value fault)⟩
  | .error (.refused fault) => ⟨files, [.dumpNotWritten target fault.message], .ok none⟩
  | .ok opened =>
    match dump.toYaml with
    | .error fault => ⟨opened, [], .error (.value fault)⟩
    | .ok text =>
      match opened.writeFile target.toList (Text.encodeUtf8 text) with
      | .error _ => ⟨opened, [], .ok none⟩
      | .ok written => ⟨written, [.dumpWritten target], .ok (some target)⟩

end TraceAutomata
