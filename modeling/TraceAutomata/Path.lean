import TraceAutomata.Text.Blank

/-!
# Paths

File paths as texts with slashes: their directory, their last component, the extension of that, and
joining. A path is cut at its last slash; an extension starts at the last dot of the last component,
unless only dots stand before it.
-/

namespace TraceAutomata.Path

/-- The longest end of a list whose members all pass a test. -/
def takeWhileEnd {α : Type} (test : α → Bool) (members : List α) : List α :=
  (members.reverse.takeWhile test).reverse

/-- Whether a character is part of a component. -/
def isComponentChar (character : Char) : Bool :=
  character != '/'

/-- The last component: all after the last slash. -/
def lastComponent (path : List Char) : List Char :=
  takeWhileEnd isComponentChar path

/-- All up to and including the last slash. -/
def throughLastSlash (path : List Char) : List Char :=
  Text.dropWhileEnd isComponentChar path

/-- The directory: all before the last slash without the slashes right before it, unless it is slashes
alone. -/
def directory (path : List Char) : List Char :=
  let head := throughLastSlash path
  if head.all (· == '/') then head else Text.dropWhileEnd (· == '/') head

/-- Cut a component before its extension. -/
def splitComponent (component : List Char) : List Char × List Char :=
  let extension := takeWhileEnd (· != '.') component
  let before := Text.dropWhileEnd (· != '.') component
  match before.reverse with
  | '.' :: stem =>
    if stem.all (· == '.') then (component, []) else (stem.reverse, '.' :: extension)
  | _ => (component, [])

/-- A path without the extension of its last component. -/
def withoutExtension (path : List Char) : List Char :=
  throughLastSlash path ++ (splitComponent (lastComponent path)).1

/-- The last component without its extension. -/
def stem (path : List Char) : List Char :=
  (splitComponent (lastComponent path)).1

/-- A path inside a directory. An absolute path stays as it is, and so does a path in no directory. -/
def join (directory path : List Char) : List Char :=
  if path.head? == some '/' then path
  else if directory.isEmpty || directory.getLast? == some '/' then directory ++ path
  else directory ++ '/' :: path

/-- Components between slashes, empty ones included. -/
def components : List Char → List (List Char)
  | [] => [[]]
  | character :: rest =>
    if character == '/' then [] :: components rest
    else
      match components rest with
      | [] => [[character]]
      | first :: others => (character :: first) :: others

/-- A path with `suffix` at its end, appended only when it is not there yet. -/
def ensureSuffix (suffix path : List Char) : List Char :=
  if suffix.isSuffixOf path then path else path ++ suffix

end TraceAutomata.Path
