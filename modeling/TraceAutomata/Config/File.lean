import TraceAutomata.Config
import TraceAutomata.FileSystem
import TraceAutomata.Yaml.Reader

/-!
# Settings files

Reading the settings that a file holds. A file that is not there and a file that is no document are
errors of the settings; every other fault of the system or of the encoding is passed on as it is.
-/

namespace TraceAutomata

/-- What keeps a settings file from being read. -/
inductive ConfigFileFault
  | settings (fault : ConfigFault)
  | access (fault : FileFault)
  | encoding (fault : Text.Utf8Fault)
  deriving DecidableEq, Repr

namespace Config

variable [Runtime]

/-- The settings that the text of a source gives. -/
def ofSource (path : String) (source : Yaml.Source) : Except ConfigFileFault Config :=
  match Yaml.readSource source with
  | .error .malformed => .error (.settings (.refused (.malformedFile path)))
  | .error (.value fault) => .error (.settings (.value fault))
  | .error (.encoding fault) => .error (.encoding fault)
  | .ok value => (ofValue value).mapError .settings

/-- The settings in a file, which is read piece by piece. -/
def ofFile (files : FileSystem) (path : String) : Except ConfigFileFault Config :=
  match files.readFile path.toList with
  | .error (.value fault) => .error (.settings (.value fault))
  | .error (.refused ⟨.noSuchFile, _⟩) => .error (.settings (.refused (.fileNotFound path)))
  | .error (.refused fault) => .error (.access fault)
  | .ok bytes => ofSource path (.ofStored bytes)

end Config

end TraceAutomata
