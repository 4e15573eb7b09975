import TraceAutomata.CommandLine.Run
import TraceAutomata.Proofs.Config
import TraceAutomata.Proofs.FileSystem
import TraceAutomata.Runtime.Standard

/-!
# Settings files that cannot be used

What a run makes of a settings file that gives no settings. Only a file that is missing, a text that is no document
and a check that refuses become errors of the settings, and a run reports these with the exit code 1.
Everything else is passed on as it is: `Unreported` lists these faults, and `settings_reported_or_unreported` says
that they are exactly the ones that are not reported.
-/

namespace TraceAutomata

namespace Config

variable [Runtime] {files : FileSystem} {path : String} {fault : ConfigFileFault}

/-- The faults of a settings file that are not errors of the settings. -/
inductive Unreported (files : FileSystem) (path : String) : ConfigFileFault → Prop
  /-- The text of the path is no path. -/
  | unfitPath {fault : ValueFault} (unfit : FileSystem.pathFault? path.toList = some fault) :
    Unreported files path (.settings (.value fault))
  /-- The path names something that is there or may be there, and that is no file. -/
  | inaccessible {fault : FileFault} (refused : files.readFile path.toList = .error (.refused fault))
      (present : fault.problem ≠ .noSuchFile) : Unreported files path (.access fault)
  /-- The bytes of the file are not the encoding of a text. -/
  | undecodable {bytes : List UInt8} {fault : Text.Utf8Fault} (stored : files.readFile path.toList = .ok bytes)
      (faulty : Yaml.readSource (.ofStored bytes) = .error (.encoding fault)) :
    Unreported files path (.encoding fault)
  /-- A scalar of the document names no value. -/
  | nameless {bytes : List UInt8} {fault : ValueFault} (stored : files.readFile path.toList = .ok bytes)
      (faulty : Yaml.readSource (.ofStored bytes) = .error (.value fault)) :
    Unreported files path (.settings (.value fault))
  /-- The check of the mapping cannot say what it refuses. -/
  | unreportable {bytes : List UInt8} {value : Value} {entries : List (Value × Value)} {fault : ConfigFault}
      (stored : files.readFile path.toList = .ok bytes) (read : Yaml.readSource (.ofStored bytes) = .ok value)
      (mapping : value.content = .mapping entries) (unreportable : Unreportable entries fault) :
    Unreported files path (.settings fault)

/-- The fault is an error of the settings. -/
def Refusal (fault : ConfigFileFault) : Prop :=
  ∃ error, fault = .settings (.refused error)

/-! ## Values -/

theorem ofValue_of_mapping {value : Value} {entries : List (Value × Value)}
    (mapping : value.content = .mapping entries) : ofValue value = ofEntries entries := by
  rw [ofValue, mapping]

/-- A value gives settings or is refused, unless it is a mapping whose check cannot say what it refuses. -/
theorem unreportable_of_ofValue {value : Value} {own : ConfigFault} (failed : ofValue value = .error own)
    (unrefused : ∀ error, own ≠ .refused error) :
    ∃ entries, value.content = .mapping entries ∧ Unreportable entries own := by
  unfold ofValue at failed
  split at failed
  · cases failed
  · rename_i entries mapping
    refine ⟨entries, mapping, ?_⟩
    obtain ⟨config, passed⟩ | ⟨error, refused⟩ | ⟨other, unreportable⟩ := ofEntries_cases entries
    · rw [passed] at failed
      cases failed
    · rw [refused] at failed
      exact absurd (Except.error.inj failed).symm (unrefused error)
    · rw [ofEntries_of_unreportable unreportable] at failed
      exact Except.error.inj failed ▸ unreportable
  · exact absurd (Except.error.inj failed).symm (unrefused _)

theorem Unreportable.not_refused {entries : List (Value × Value)} {own : ConfigFault}
    (unreportable : Unreportable entries own) (error : ConfigError) : own ≠ .refused error := by
  cases unreportable <;> nofun

/-! ## Files -/

/-- Such a fault is what comes of reading the file. -/
theorem ofFile_of_unreported (unreported : Unreported files path fault) : ofFile files path = .error fault := by
  unfold ofFile
  cases unreported with
  | unfitPath unfit =>
    simp only [FileSystem.readFile, unfit]
  | inaccessible refused present =>
    rename_i fault
    obtain ⟨problem, concerned⟩ := fault
    rw [refused]
    cases problem <;> first | rfl | exact absurd rfl present
  | undecodable stored faulty =>
    simp only [stored, ofSource, faulty]
  | nameless stored faulty =>
    simp only [stored, ofSource, faulty]
  | unreportable stored read mapping unreportable =>
    simp only [stored, ofSource, read, ofValue_of_mapping mapping, ofEntries_of_unreportable unreportable]
    rfl

theorem Unreported.not_refusal (unreported : Unreported files path fault) : ¬Refusal fault := by
  rintro ⟨error, rfl⟩
  cases unreported with
  | unreportable stored read mapping unreportable => exact unreportable.not_refused error rfl

/-- A file is read as settings or refused, unless a fault is not reported. -/
theorem unreported_of_ofFile (failed : ofFile files path = .error fault) (unrefused : ¬Refusal fault) :
    Unreported files path fault := by
  unfold ofFile at failed
  split at failed
  · rename_i own unfit
    obtain rfl := Except.error.inj failed
    exact .unfitPath (FileSystem.pathFault?_of_readFile unfit)
  · exact absurd ⟨_, (Except.error.inj failed).symm⟩ unrefused
  · rename_i refusal missing refused
    obtain rfl := Except.error.inj failed
    refine .inaccessible refused fun absent => missing refusal.path ?_
    rw [← absent]
  · rename_i bytes stored
    unfold ofSource at failed
    split at failed
    · exact absurd ⟨_, (Except.error.inj failed).symm⟩ unrefused
    · rename_i own faulty
      obtain rfl := Except.error.inj failed
      exact .nameless stored faulty
    · rename_i own faulty
      obtain rfl := Except.error.inj failed
      exact .undecodable stored faulty
    · rename_i value read
      cases given : ofValue value with
      | ok config =>
        rw [given] at failed
        cases failed
      | error own =>
        rw [given] at failed
        obtain rfl := Except.error.inj failed
        have distinct : ∀ error, own ≠ .refused error := fun error same => unrefused ⟨error, by rw [same]⟩
        obtain ⟨entries, mapping, unreportable⟩ := unreportable_of_ofValue given distinct
        exact .unreportable stored read mapping unreportable

end Config

namespace CommandLine

open Config

section Settings

variable [Runtime]

/-- What comes of a settings file that gives no settings. -/
structure ReportedOrUnreported (files : FileSystem) (path : String) : Prop where
  /-- The faults that are not errors of the settings are the unreported ones. -/
  exact : ∀ fault, (ofFile files path = .error fault ∧ ¬Refusal fault) ↔ Unreported files path fault
  /-- An error of the settings is reported, and nothing else is done. -/
  reported : ∀ arguments options error, Options.ofArguments arguments = .ok options →
    options.config = some path → path.isEmpty = false →
    ofFile files path = .error (.settings (.refused error)) →
      run arguments files = { files, exit := .ok { code := 1, errors := failureLine error.message } }
  /-- Every other fault is passed on, and nothing else is done. -/
  passedOn : ∀ arguments options fault, Options.ofArguments arguments = .ok options →
    options.config = some path → path.isEmpty = false → Unreported files path fault →
      run arguments files = { files, exit := .error (.config fault) }

theorem run_of_options {arguments : List String} {options : Options}
    (given : Options.ofArguments arguments = .ok options) (files : FileSystem) :
    run arguments files = transform options files := by
  rw [run, given]

theorem baseConfig_of_path {options : Options} {path : String} (named : options.config = some path)
    (present : path.isEmpty = false) (files : FileSystem) : baseConfig options files = ofFile files path := by
  simp [baseConfig, named, present]

/-- Of every path and all files: settings that are not given are reported, but for the faults that are
passed on. -/
theorem settings_reported_or_unreported (files : FileSystem) (path : String) :
    ReportedOrUnreported files path := by
  constructor
  · intro fault
    constructor
    · rintro ⟨failed, unrefused⟩
      exact unreported_of_ofFile failed unrefused
    · intro unreported
      exact ⟨ofFile_of_unreported unreported, unreported.not_refusal⟩
  · intro arguments options error given named present refused
    rw [run_of_options given, transform, baseConfig_of_path named present, refused]
  · intro arguments options fault given named present unreported
    rw [run_of_options given, transform, baseConfig_of_path named present, ofFile_of_unreported unreported]
    split
    · rename_i error same
      exact absurd ⟨error, Except.error.inj same⟩ unreported.not_refusal
    · rename_i own _ same
      rw [Except.error.inj same]
    · contradiction

end Settings

section Standard

open scoped TraceAutomata.Runtime

/-- A directory, a path through a file, bytes that are no text, a day that does not exist and keys of two kinds: no
settings are read, and no error of the settings is given. -/
theorem directory_unreported :
    let files : FileSystem := ⟨[(["bytes".toList], .file [0xE9]),
      (["day".toList], .file (Text.encodeUtf8 "log_level: 2024-02-30")),
      (["keys".toList], .file (Text.encodeUtf8 "1: a\nb: c"))], []⟩
    ofFile files "." = .error (.access ⟨.isADirectory, "."⟩) ∧
      ofFile files "day/below" = .error (.access ⟨.notADirectory, "day/below"⟩) ∧
      (∃ fault, ofFile files "bytes" = .error (.encoding fault)) ∧
      ofFile files "day" = .error (.settings (.value (.calendar .day))) ∧
      ofFile files "keys" = .error (.settings .incomparableKeys) ∧
      (run ["t.yaml", "-c", "."] files).exit = .error (.config (.access ⟨.isADirectory, "."⟩)) := by
  refine ⟨?_, ?_, ⟨⟨0xE9, 0, 1, .unexpectedEnd⟩, ?_⟩, ?_, ?_, ?_⟩ <;> decide +kernel

end Standard

end CommandLine

end TraceAutomata
