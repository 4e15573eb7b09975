import TraceAutomata.Document.ValueFault
import TraceAutomata.Path

/-!
# File systems

A file system as a value: a tree of directories and files, and the directory in which relative paths
start. Reading, writing and making directories are functions on it; each either succeeds or answers
with the fault that the system reports, and a call that fails changes nothing.
-/

namespace TraceAutomata

/-- What stands at a place of the tree. -/
inductive Entry
  | directory
  | file (content : List UInt8)
  deriving DecidableEq, Repr

/-- A place in the tree: the components from the root down. -/
abbrev Place := List (List Char)

/-- A tree of files and directories. The root is always a directory and has no entry. -/
structure FileSystem where
  entries : List (Place × Entry)
  workingDirectory : Place
  deriving Repr

/-- The faults that the system reports. -/
inductive FileProblem
  | noSuchFile
  | alreadyExists
  | notADirectory
  | isADirectory
  | nameTooLong
  deriving DecidableEq, Repr

/-- The system's number for a fault. -/
def FileProblem.number : FileProblem → Nat
  | .noSuchFile => 2
  | .alreadyExists => 17
  | .notADirectory => 20
  | .isADirectory => 21
  | .nameTooLong => 36

/-- The system's wording of a fault. -/
def FileProblem.wording : FileProblem → String
  | .noSuchFile => "No such file or directory"
  | .alreadyExists => "File exists"
  | .notADirectory => "Not a directory"
  | .isADirectory => "Is a directory"
  | .nameTooLong => "File name too long"

/-- A fault together with the path it concerns. -/
structure FileFault where
  problem : FileProblem
  path : String
  deriving DecidableEq, Repr

/-- The full message of a fault. -/
def FileFault.message [Runtime] (fault : FileFault) : String :=
  "[Errno " ++ Text.decimal fault.problem.number ++ "] " ++ fault.problem.wording ++ ": "
    ++ Text.quoted fault.path

/-- Why a call on a path does not succeed: the path is no path at all, or the system refuses. -/
inductive AccessFault
  | value (fault : ValueFault)
  | refused (fault : FileFault)
  deriving DecidableEq, Repr

/-- The message of a failed call. -/
def AccessFault.message [Runtime] : AccessFault → String
  | .value fault => fault.message
  | .refused fault => fault.message

namespace FileSystem

/-! ## Places -/

/-- What stands at a place, if anything. -/
def entryAt? (files : FileSystem) : Place → Option Entry
  | [] => some .directory
  | place => (files.entries.find? fun entry => entry.1 == place).map Prod.snd

/-- Put an entry at a place: replace the one that is there, or add it at the end. -/
def putEntry (place : Place) (entry : Entry) :
    List (Place × Entry) → List (Place × Entry)
  | [] => [(place, entry)]
  | first :: rest =>
    if first.1 == place then (place, entry) :: rest else first :: putEntry place entry rest

/-- The file system with an entry at a place. -/
def put (files : FileSystem) (place : Place) (entry : Entry) : FileSystem :=
  { files with entries := putEntry place entry files.entries }

section Paths

variable [Runtime]

/-- Whether a surrogate stands in a path for a byte that is no part of a character. -/
def isEscapedByte (half : Surrogate) : Bool :=
  0xDC80 ≤ half.codePoint && half.codePoint ≤ 0xDCFF

/-- Why a text is no path: it cannot be stored as bytes, or it holds the null character. -/
def pathFault? (path : List Char) : Option ValueFault :=
  match Text.encodeFaultFrom? isEscapedByte 0 path with
  | some fault => some (.notEncodable fault)
  | none => if path.contains (Char.ofNat 0) then some .embeddedNull else none

/-- The number of bytes that store some characters of a path. -/
def storedSize : List Char → Nat
  | [] => 0
  | character :: rest => (if Text.isSurrogate character then 1 else character.utf8Size) + storedSize rest

/-- The most bytes that a component may have. -/
def componentLimit : Nat := 255

/-- The number of bytes that a path must stay below. -/
def pathLimit : Nat := 4096

/-- Walk down the components of a path. A component can be taken only from a directory; two dots lead to
the directory above. All components but the last must exist, and none may be too long. -/
def walk (files : FileSystem) (place : Place) : List (List Char) → Except FileProblem Place
  | [] => .ok place
  | component :: rest =>
    match files.entryAt? place with
    | none => .error .noSuchFile
    | some (.file _) => .error .notADirectory
    | some .directory =>
      if component == [] || component == ['.'] then files.walk place rest
      else if component == ['.', '.'] then files.walk place.dropLast rest
      else if componentLimit < storedSize component then .error .nameTooLong
      else files.walk (place ++ [component]) rest

/-- The place that a path names. -/
def locate (files : FileSystem) (path : List Char) : Except FileProblem Place :=
  if path.isEmpty then .error .noSuchFile
  else if pathLimit ≤ storedSize path then .error .nameTooLong
  else if path.head? == some '/' then files.walk [] (Path.components path)
  else files.walk files.workingDirectory (Path.components path)

/-- What a path names, if anything. -/
def lookup? (files : FileSystem) (path : List Char) : Option Entry :=
  match files.locate path with
  | .ok place => files.entryAt? place
  | .error _ => none

/-- Whether a path names a file or directory. -/
def contains (files : FileSystem) (path : List Char) : Bool :=
  (files.lookup? path).isSome

/-- Whether a path names a directory. -/
def isDirectory (files : FileSystem) (path : List Char) : Bool :=
  files.lookup? path == some .directory

/-! ## Calls -/

/-- Attach the path to the fault of a call on it. -/
def refuse {α : Type} (path : List Char) (problem : FileProblem) : Except AccessFault α :=
  .error (.refused ⟨problem, String.ofList path⟩)

/-- The content of the file that a path names. -/
def readFile (files : FileSystem) (path : List Char) : Except AccessFault (List UInt8) :=
  match pathFault? path with
  | some fault => .error (.value fault)
  | none =>
    match files.locate path with
    | .error problem => refuse path problem
    | .ok place =>
      match files.entryAt? place with
      | none => refuse path .noSuchFile
      | some .directory => refuse path .isADirectory
      | some (.file content) => .ok content

/-- The place of the file that opening a path for writing would create or empty. -/
def placeToWrite (files : FileSystem) (path : List Char) : Except AccessFault Place :=
  match pathFault? path with
  | some fault => .error (.value fault)
  | none =>
    match files.locate path with
    | .error problem => refuse path problem
    | .ok place =>
      match files.entryAt? place with
      | some .directory => refuse path .isADirectory
      | _ => .ok place

/-- The file system in which the file that a path names has this content. -/
def writeFile (files : FileSystem) (path : List Char) (content : List UInt8) :
    Except AccessFault FileSystem :=
  (files.placeToWrite path).map fun place => files.put place (.file content)

/-- The file system with one more directory; the directory above it must exist. -/
def makeDirectory (files : FileSystem) (path : List Char) : Except AccessFault FileSystem :=
  match pathFault? path with
  | some fault => .error (.value fault)
  | none =>
    match files.locate path with
    | .error problem => refuse path problem
    | .ok place =>
      if (files.entryAt? place).isSome then refuse path .alreadyExists
      else .ok (files.put place .directory)

/-- A path as its directory and its last component; slashes at its end are passed over. -/
def headAndTail (path : List Char) : List Char × List Char :=
  let tail := Path.lastComponent path
  if tail.isEmpty then
    let head := Path.directory path
    (Path.directory head, Path.lastComponent head)
  else (Path.directory path, tail)

/-- Whether a path has a directory above it that is missing. -/
def lacksHead (files : FileSystem) (path : List Char) : Bool :=
  let parts := headAndTail path
  !parts.1.isEmpty && !parts.2.isEmpty && !files.contains parts.1

/-- Make a directory unless it stands already. -/
def makeUnlessStanding (files : FileSystem) (path : List Char) : FileSystem × Except AccessFault Unit :=
  match files.makeDirectory path with
  | .ok made => (made, .ok ())
  | .error (.value fault) => (files, .error (.value fault))
  | .error fault => if files.isDirectory path then (files, .ok ()) else (files, .error fault)

/-- Make a directory whose head was missing, once all above it are made. A single dot at the end names the
head itself. -/
def makeBelow (above : FileSystem) (path : List Char) : FileSystem × Except AccessFault Unit :=
  if (headAndTail path).2 == ['.'] then (above, .ok ()) else above.makeUnlessStanding path

/-- Make a directory and all that are missing above it. What was made before a fault stays made, so the
file system is answered in every case. `bound` bounds the number of directories above. -/
def makeDirectories (bound : Nat) (files : FileSystem) (path : List Char) :
    FileSystem × Except AccessFault Unit :=
  match bound with
  | 0 => files.makeUnlessStanding path
  | deeper + 1 =>
    if files.lacksHead path then
      match makeDirectories deeper files (headAndTail path).1 with
      | (above, .ok ()) => above.makeBelow path
      | (above, .error (.refused ⟨.alreadyExists, _⟩)) => above.makeBelow path
      | (above, .error fault) => (above, .error fault)
    else files.makeUnlessStanding path

/-- Make the directory that a path names, with all that are missing above it. -/
def ensureDirectory (files : FileSystem) (path : List Char) :
    FileSystem × Except AccessFault Unit :=
  files.makeDirectories path.length path

end Paths

end FileSystem

end TraceAutomata
