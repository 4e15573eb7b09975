import TraceAutomata.CommandLine.Run
import TraceAutomata.Runtime.Standard

/-!
# The program

The command line on the real files. What a run may read or write is looked up on disk, the run itself
works on that picture of the files, and what it changed is put on disk afterwards.
-/

open TraceAutomata
open scoped TraceAutomata.Runtime

namespace TraceAutomata.Disk

/-- A place as an absolute path. -/
def pathOf (place : Place) : String :=
  "/" ++ "/".intercalate (place.map String.ofList)

/-- What stands at a place on disk. A place that is there but cannot be read as a file is a directory. -/
def entryAt? (place : Place) : IO (Option Entry) := do
  try
    let bytes ← IO.FS.readBinFile (pathOf place)
    return some (.file bytes.toList)
  catch
    | .noFileOrDirectory .. => return none
    | _ => return some .directory

/-- Look at a place on disk and note what stands there. -/
def look (files : FileSystem) (place : Place) : IO FileSystem := do
  match ← entryAt? place with
  | some entry => return files.put place entry
  | none => return files

/-- Look at all places on the way down some components. -/
def lookAlong (files : FileSystem) (place : Place) : List (List Char) → IO FileSystem
  | [] => return files
  | component :: rest => do
    if component.isEmpty || component == ['.'] then lookAlong files place rest
    else if component == ['.', '.'] then lookAlong files place.dropLast rest
    else
      let next := place ++ [component]
      lookAlong (← look files next) next rest

/-- Look at all places on the way of a path. -/
def lookAt (files : FileSystem) (path : String) : IO FileSystem :=
  let start := if path.startsWith "/" then [] else files.workingDirectory
  lookAlong files start (Path.components path.toList)

/-- Look at all places on the way of some paths. -/
def lookAtAll (files : FileSystem) (paths : List String) : IO FileSystem :=
  paths.foldlM lookAt files

/-- The picture of the files that a run with some arguments needs. -/
def picture (arguments : List String) : IO FileSystem := do
  let current ← IO.currentDir
  let place := (Path.components current.toString.toList).filter fun component => !component.isEmpty
  let start ← lookAlong { entries := [], workingDirectory := place } [] place
  match CommandLine.Options.ofArguments arguments with
  | .error _ => return start
  | .ok options =>
    let read ← lookAtAll start (CommandLine.inputPaths options)
    lookAtAll read (CommandLine.outputPaths options read)

/-- Put on disk what a run changed. -/
def store (before after : FileSystem) : IO Unit := do
  for (place, entry) in after.entries do
    if before.entryAt? place != some entry then
      match entry with
      | .directory => IO.FS.createDirAll (pathOf place)
      | .file bytes => IO.FS.writeBinFile (pathOf place) (ByteArray.mk bytes.toArray)

end TraceAutomata.Disk

/-- Run the command line. -/
def main (arguments : List String) : IO UInt32 := do
  let files ← Disk.picture arguments
  let ran := CommandLine.run arguments files
  Disk.store files ran.files
  for warning in ran.events.filterMap Event.warning? do
    IO.eprintln warning
  match ran.exit with
  | .ok exit =>
    IO.print exit.output
    IO.eprint exit.errors
    return UInt32.ofNat exit.code
  | .error fault =>
    IO.eprintln fault.message
    return 1
