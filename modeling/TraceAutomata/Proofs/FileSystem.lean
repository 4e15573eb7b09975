import TraceAutomata.Proofs.Path

/-!
# Laws of file systems

A file that is written is read back (`readFile_of_content?`), everything else keeps its content
(`content?_put_of_ne`), and no path leads elsewhere afterwards (`placeToWrite_put`). Making directories
puts some where nothing stood, so what that keeps is kept (`ensureDirectory_induction`): the content of all
files, and where paths lead.

The place that a path leads to ends with the path's last component (`getLast?_of_locate`), so paths with
different last components name different places. Where every entry stands in a directory (`Rooted`), a path
that ends with dots leads to no file, so this holds of the paths of all files (`getLast?_of_locate_file`).

A call that is not made at all was given a text that is no path (`pathFault?_of_placeToWrite`); making directories also
looks at the beginnings of the one it is given (`pathFault?_of_ensureDirectory`).
-/

namespace TraceAutomata.FileSystem

variable {files written : FileSystem} {place other start found : Place} {entry : Entry}
  {path : List Char} {content : List UInt8}

/-- The content of the file at a place, if a file stands there. -/
def content? (files : FileSystem) (place : Place) : Option (List UInt8) :=
  match files.entryAt? place with
  | some (.file content) => some content
  | _ => none

/-! ## Entries -/

theorem find?_putEntry_self (place : Place) (entry : Entry) (entries : List (Place × Entry)) :
    (putEntry place entry entries).find? (fun standing => standing.1 == place) = some (place, entry) := by
  induction entries with
  | nil => simp [putEntry]
  | cons first rest inductionHypothesis =>
    rw [putEntry]
    cases same : first.1 == place with
    | true => simp
    | false => simp [same, inductionHypothesis]

theorem find?_putEntry_of_ne (differs : other ≠ place) (entry : Entry) (entries : List (Place × Entry)) :
    (putEntry place entry entries).find? (fun standing => standing.1 == other) =
      entries.find? fun standing => standing.1 == other := by
  have apart : (place == other) = false := by simpa using differs.symm
  induction entries with
  | nil => simp [putEntry, apart]
  | cons first rest inductionHypothesis =>
    rw [putEntry]
    cases same : first.1 == place with
    | true =>
      obtain rfl : first.1 = place := by simpa using same
      simp [apart]
    | false => simp [List.find?_cons, inductionHypothesis]

theorem entryAt?_put_self (below : place ≠ []) : (files.put place entry).entryAt? place = some entry := by
  cases place with
  | nil => exact absurd rfl below
  | cons first rest => simp only [entryAt?, put, find?_putEntry_self, Option.map_some]

theorem entryAt?_put_of_ne (differs : other ≠ place) :
    (files.put place entry).entryAt? other = files.entryAt? other := by
  cases other with
  | nil => rfl
  | cons first rest => simp only [entryAt?, put, find?_putEntry_of_ne differs]

theorem content?_put_self (below : place ≠ []) :
    (files.put place (.file content)).content? place = some content := by
  rw [content?, entryAt?_put_self below]

theorem content?_put_of_ne (differs : other ≠ place) :
    (files.put place entry).content? other = files.content? other := by
  rw [content?, entryAt?_put_of_ne differs, content?]

theorem putEntry_putEntry (place : Place) (first second : Entry) (entries : List (Place × Entry)) :
    putEntry place second (putEntry place first entries) = putEntry place second entries := by
  induction entries with
  | nil => simp [putEntry]
  | cons standing rest inductionHypothesis =>
    cases same : standing.1 == place with
    | true => simp [putEntry, same]
    | false => simp [putEntry, same, inductionHypothesis]

/-- The last of two entries that are put at one place counts. -/
theorem put_put (files : FileSystem) (place : Place) (first second : Entry) :
    (files.put place first).put place second = files.put place second := by
  rw [put, put, put, putEntry_putEntry]

/-- The root is a directory, so a place where none stands is below it. -/
theorem ne_root_of_entryAt? (free : files.entryAt? place ≠ some .directory) : place ≠ [] := by
  rintro rfl
  exact free rfl

theorem content?_eq_some_iff : files.content? place = some content ↔
    files.entryAt? place = some (.file content) := by
  unfold content?
  split
  · rename_i standing
    rw [standing]
    simp
  · rename_i other
    constructor
    · rintro ⟨⟩
    · intro standing
      exact absurd standing (other content)

/-- A directory put where nothing stands changes no content. -/
theorem content?_put_directory (free : files.entryAt? place = none) (other : Place) :
    (files.put place .directory).content? other = files.content? other := by
  by_cases same : other = place
  · subst same
    have below := ne_root_of_entryAt? (by rw [free]; simp)
    rw [content?, content?, entryAt?_put_self below, free]
  · exact content?_put_of_ne same

/-! ## Trees -/

/-- Everything that stands somewhere stands in a directory. -/
def Rooted (files : FileSystem) : Prop :=
  ∀ place component, files.entryAt? (place ++ [component]) ≠ none → files.entryAt? place = some .directory

/-- A directory is in a directory. -/
theorem Rooted.dropLast (rooted : files.Rooted) (standing : files.entryAt? place = some .directory) :
    files.entryAt? place.dropLast = some .directory := by
  rcases List.eq_nil_or_concat place with rfl | ⟨above, component, rfl⟩
  · rfl
  · rw [List.concat_eq_append] at standing ⊢
    rw [List.dropLast_concat]
    apply rooted above component
    rw [standing]
    simp

/-- An entry that is put in a directory, where no directory stands, keeps everything in directories. -/
theorem Rooted.put (rooted : files.Rooted) (above : files.entryAt? place.dropLast = some .directory)
    (free : files.entryAt? place ≠ some .directory) : (files.put place entry).Rooted := by
  intro other component standing
  by_cases here : other ++ [component] = place
  · subst here
    rw [List.dropLast_concat] at above
    rw [entryAt?_put_of_ne (by simp), above]
  · rw [entryAt?_put_of_ne here] at standing
    have directory := rooted other component standing
    have apart : other ≠ place := by
      rintro rfl
      exact free directory
    rw [entryAt?_put_of_ne apart, directory]

theorem prefix_headAndTail (path : List Char) : (headAndTail path).1 <+: path := by
  have above := Path.prefix_directory path
  unfold headAndTail
  dsimp only
  split
  · exact (Path.prefix_directory _).trans above
  · exact above

/-! ## Walks -/

variable [Runtime]

/-- Take one component from a directory. -/
def enter (place : Place) (component : List Char) : Except FileProblem Place :=
  if component == [] || component == ['.'] then .ok place
  else if component == ['.', '.'] then .ok place.dropLast
  else if componentLimit < storedSize component then .error .nameTooLong
  else .ok (place ++ [component])

/-- A walk goes on from a directory by one component. -/
theorem walk_of_directory {component : List Char} {rest : List (List Char)}
    (standing : files.entryAt? start = some .directory) :
    files.walk start (component :: rest) =
      (enter start component).bind fun next => files.walk next rest := by
  rw [walk, standing, enter]
  dsimp only
  split
  · rfl
  · split
    · rfl
    · split <;> rfl

/-- A walk that arrives has taken its components from a directory. -/
theorem directory_of_walk {component : List Char} {rest : List (List Char)}
    (arrived : files.walk start (component :: rest) = .ok found) :
    files.entryAt? start = some .directory := by
  rw [walk] at arrived
  split at arrived
  · cases arrived
  · cases arrived
  · assumption

theorem walk_append {front back : List (List Char)} (arrived : files.walk start (front ++ back) = .ok found) :
    ∃ middle, files.walk start front = .ok middle ∧ files.walk middle back = .ok found := by
  induction front generalizing start with
  | nil => exact ⟨start, rfl, arrived⟩
  | cons component rest inductionHypothesis =>
    have standing := directory_of_walk arrived
    rw [List.cons_append, walk_of_directory standing] at arrived
    rw [walk_of_directory standing]
    cases entered : enter start component with
    | error problem =>
      rw [entered] at arrived
      cases arrived
    | ok next =>
      rw [entered] at arrived
      exact inductionHypothesis arrived

/-- A walk that arrives still does so when something is put where no directory stands. -/
theorem walk_put {parts : List (List Char)} (free : files.entryAt? place ≠ some .directory)
    (arrived : files.walk start parts = .ok found) : (files.put place entry).walk start parts = .ok found := by
  induction parts generalizing start with
  | nil => exact arrived
  | cons component rest inductionHypothesis =>
    have standing := directory_of_walk arrived
    have differs : start ≠ place := fun same => free (same ▸ standing)
    have kept : (files.put place entry).entryAt? start = some .directory := by
      rw [entryAt?_put_of_ne differs, standing]
    rw [walk_of_directory standing] at arrived
    rw [walk_of_directory kept]
    cases entered : enter start component with
    | error problem =>
      rw [entered] at arrived
      cases arrived
    | ok next =>
      rw [entered] at arrived
      exact inductionHypothesis arrived

theorem locate_put (free : files.entryAt? place ≠ some .directory) (located : files.locate path = .ok found) :
    (files.put place entry).locate path = .ok found := by
  unfold locate at located ⊢
  split at located
  · cases located
  · split at located
    · cases located
    · rename_i named short
      rw [if_neg named, if_neg short]
      split at located
      · rename_i absolute
        rw [if_pos absolute]
        exact walk_put free located
      · rename_i relative
        rw [if_neg relative]
        exact walk_put free located

/-- A path that leads somewhere is a walk along its components. -/
theorem walk_of_locate (located : files.locate path = .ok found) :
    ∃ start, files.walk start (Path.components path) = .ok found := by
  unfold locate at located
  split at located
  · cases located
  · split at located
    · cases located
    · split at located
      · exact ⟨[], located⟩
      · exact ⟨files.workingDirectory, located⟩

/-- A path that leads somewhere leads there by its last component, from a directory. -/
theorem enter_of_locate (located : files.locate path = .ok found) :
    ∃ middle, files.entryAt? middle = some .directory ∧ enter middle (Path.lastComponent path) = .ok found := by
  obtain ⟨start, arrived⟩ := walk_of_locate located
  obtain ⟨front, parts⟩ := Path.components_eq_append path
  rw [parts] at arrived
  obtain ⟨middle, -, last⟩ := walk_append arrived
  have standing := directory_of_walk last
  refine ⟨middle, standing, ?_⟩
  rw [walk_of_directory standing] at last
  cases entered : enter middle (Path.lastComponent path) with
  | error problem =>
    rw [entered] at last
    cases last
  | ok next =>
    rw [entered] at last
    exact last

/-- A component that is taken is the last of the place, unless it only means a directory on the way. -/
theorem enter_eq_ok {component : List Char} (entered : enter start component = .ok found) :
    found = start ∧ (component = [] ∨ component = ['.']) ∨
      found = start.dropLast ∧ component = ['.', '.'] ∨ found = start ++ [component] := by
  unfold enter at entered
  split at entered
  · rename_i here
    cases entered
    exact .inl ⟨rfl, by simpa using here⟩
  · split at entered
    · rename_i above
      cases entered
      exact .inr (.inl ⟨rfl, by simpa using above⟩)
    · split at entered
      · cases entered
      · cases entered
        exact .inr (.inr rfl)

/-- The place that a path leads to ends with the path's last component, unless that only means a directory
on the way. -/
theorem getLast?_of_locate (long : 2 < (Path.lastComponent path).length)
    (located : files.locate path = .ok found) : found.getLast? = some (Path.lastComponent path) := by
  obtain ⟨middle, -, entered⟩ := enter_of_locate located
  rcases enter_eq_ok entered with ⟨-, none | dot⟩ | ⟨-, dots⟩ | rfl
  · simp [none] at long
  · simp [dot] at long
  · simp [dots] at long
  · exact List.getLast?_concat ..

/-- Whatever a path leads to, there is a directory for it. -/
theorem Rooted.above (rooted : files.Rooted) (located : files.locate path = .ok found) :
    files.entryAt? found.dropLast = some .directory := by
  obtain ⟨middle, standing, entered⟩ := enter_of_locate located
  rcases enter_eq_ok entered with ⟨rfl, -⟩ | ⟨rfl, -⟩ | rfl
  · exact rooted.dropLast standing
  · exact rooted.dropLast (rooted.dropLast standing)
  · rwa [List.dropLast_concat]

/-- The place of a file ends with the last component of every path that leads there. -/
theorem getLast?_of_locate_file (rooted : files.Rooted) (located : files.locate path = .ok found)
    (stored : files.content? found = some content) : found.getLast? = some (Path.lastComponent path) := by
  have noDirectory : files.entryAt? found ≠ some .directory := by
    intro standing
    rw [content?, standing] at stored
    cases stored
  obtain ⟨middle, standing, entered⟩ := enter_of_locate located
  rcases enter_eq_ok entered with ⟨rfl, -⟩ | ⟨rfl, -⟩ | rfl
  · exact absurd standing noDirectory
  · exact absurd (rooted.dropLast standing) noDirectory
  · exact List.getLast?_concat ..

/-! ## Reading and writing -/

theorem placeToWrite_eq_ok_iff : files.placeToWrite path = .ok place ↔
    pathFault? path = none ∧ files.locate path = .ok place ∧ files.entryAt? place ≠ some .directory := by
  unfold placeToWrite
  cases unfit : pathFault? path with
  | some fault => simp
  | none =>
    cases located : files.locate path with
    | error problem => simp [refuse]
    | ok found =>
      cases standing : files.entryAt? found with
      | none => simp; grind
      | some entry => cases entry <;> simp [refuse] <;> grind

/-- Putting a file where one may be written changes no other place that may be. -/
theorem placeToWrite_put (free : files.entryAt? place ≠ some .directory)
    (opened : files.placeToWrite path = .ok found) :
    (files.put place (.file content)).placeToWrite path = .ok found := by
  obtain ⟨clean, located, writable⟩ := placeToWrite_eq_ok_iff.mp opened
  refine placeToWrite_eq_ok_iff.mpr ⟨clean, locate_put free located, ?_⟩
  by_cases same : found = place
  · subst same
    rw [entryAt?_put_self (ne_root_of_entryAt? free)]
    simp
  · rwa [entryAt?_put_of_ne same]

theorem readFile_eq_ok_iff : files.readFile path = .ok content ↔
    pathFault? path = none ∧ ∃ place, files.locate path = .ok place ∧ files.content? place = some content := by
  unfold readFile
  cases unfit : pathFault? path with
  | some fault => simp
  | none =>
    cases located : files.locate path with
    | error problem => simp [refuse]
    | ok found =>
      cases standing : files.entryAt? found with
      | none => simp [refuse, content?_eq_some_iff, standing]
      | some entry => cases entry <;> simp [refuse, content?_eq_some_iff, standing]

/-- A path that may be written to reads as the content at its place. -/
theorem readFile_of_content? (opened : files.placeToWrite path = .ok place)
    (stored : files.content? place = some content) : files.readFile path = .ok content := by
  obtain ⟨clean, located, -⟩ := placeToWrite_eq_ok_iff.mp opened
  exact readFile_eq_ok_iff.mpr ⟨clean, place, located, stored⟩

/-- A document and a model dump are never the same file. -/
theorem place_dump_ne_document {first second : List Char}
    (document : files.placeToWrite (Path.document first) = .ok place)
    (dump : written.placeToWrite (Path.dump second) = .ok other) : other ≠ place := by
  obtain ⟨-, atDocument, -⟩ := placeToWrite_eq_ok_iff.mp document
  obtain ⟨-, atDump, -⟩ := placeToWrite_eq_ok_iff.mp dump
  have endOfDocument := getLast?_of_locate (Path.two_lt_length_document first) atDocument
  have endOfDump := getLast?_of_locate (Path.two_lt_length_dump second) atDump
  rintro rfl
  rw [endOfDocument] at endOfDump
  exact Path.lastComponent_document_ne_dump first second (Option.some.inj endOfDump)

/-! ## Making directories -/

theorem exists_put_of_makeDirectory (made : files.makeDirectory path = .ok written) :
    ∃ place, files.locate path = .ok place ∧ files.entryAt? place = none ∧
      written = files.put place .directory := by
  unfold makeDirectory at made
  split at made
  · cases made
  · split at made
    · cases made
    · rename_i place located
      split at made
      · cases made
      · rename_i free
        cases made
        exact ⟨place, located, by simpa using free, rfl⟩

section Keeping

variable {motive : FileSystem → Prop}
  (kept : ∀ current path place, motive current → current.locate path = .ok place →
    current.entryAt? place = none → motive (current.put place .directory))

include kept

theorem makeUnlessStanding_induction (path : List Char) (initial : motive files) :
    motive (files.makeUnlessStanding path).1 := by
  unfold makeUnlessStanding
  split
  · rename_i made
    obtain ⟨place, located, free, rfl⟩ := exists_put_of_makeDirectory made
    exact kept files path place initial located free
  · exact initial
  · split <;> exact initial

theorem makeBelow_induction (path : List Char) (initial : motive files) :
    motive (files.makeBelow path).1 := by
  unfold makeBelow
  split
  · exact initial
  · exact makeUnlessStanding_induction kept path initial

theorem makeDirectories_induction (bound : Nat) (path : List Char) (initial : motive files) :
    motive (files.makeDirectories bound path).1 := by
  induction bound generalizing path with
  | zero => exact makeUnlessStanding_induction kept path initial
  | succ deeper inductionHypothesis =>
    have head := inductionHypothesis (headAndTail path).1
    rw [makeDirectories]
    split
    · split
      · rename_i above made
        rw [made] at head
        exact makeBelow_induction kept path head
      · rename_i above _ made
        rw [made] at head
        exact makeBelow_induction kept path head
      · rename_i above _ _ made
        rw [made] at head
        exact head
    · exact makeUnlessStanding_induction kept path initial

/-- What stays when a directory is put where nothing stands stays when directories are made, also when that
does not get to the end. -/
theorem ensureDirectory_induction (path : List Char) (initial : motive files) :
    motive (files.ensureDirectory path).1 :=
  makeDirectories_induction kept path.length path initial

end Keeping

/-- Making directories changes the content of no file. -/
theorem content?_ensureDirectory (files : FileSystem) (path : List Char) (place : Place) :
    (files.ensureDirectory path).1.content? place = files.content? place := by
  refine ensureDirectory_induction (motive := fun current => current.content? place = files.content? place)
    ?_ path rfl
  intro current _ other same _ free
  rw [content?_put_directory free place, same]

/-- What a path leads to is where it was when directories have been made. -/
theorem locate_ensureDirectory (directory : List Char) (located : files.locate path = .ok found) :
    (files.ensureDirectory directory).1.locate path = .ok found := by
  refine ensureDirectory_induction (motive := fun current => current.locate path = .ok found) ?_ directory
    located
  intro current _ other found _ free
  apply locate_put _ found
  rw [free]
  simp

/-- Directories are made in directories. -/
theorem Rooted.ensureDirectory (rooted : files.Rooted) (path : List Char) :
    (files.ensureDirectory path).1.Rooted := by
  apply ensureDirectory_induction _ path rooted
  intro current path place standing located free
  apply standing.put (standing.above located)
  rw [free]
  simp

/-! ## Texts that are no paths -/

section Unfit

variable {fault : ValueFault}

theorem pathFault?_of_readFile (refused : files.readFile path = .error (.value fault)) :
    pathFault? path = some fault := by
  unfold readFile at refused
  split at refused
  · cases refused
    assumption
  · split at refused
    · cases refused
    · split at refused <;> cases refused

theorem pathFault?_of_placeToWrite (refused : files.placeToWrite path = .error (.value fault)) :
    pathFault? path = some fault := by
  unfold placeToWrite at refused
  split at refused
  · cases refused
    assumption
  · split at refused
    · cases refused
    · split at refused <;> cases refused

theorem pathFault?_of_makeDirectory (refused : files.makeDirectory path = .error (.value fault)) :
    pathFault? path = some fault := by
  unfold makeDirectory at refused
  split at refused
  · cases refused
    assumption
  · split at refused
    · cases refused
    · split at refused <;> cases refused

theorem pathFault?_of_makeUnlessStanding
    (refused : (files.makeUnlessStanding path).2 = .error (.value fault)) : pathFault? path = some fault := by
  unfold makeUnlessStanding at refused
  split at refused
  · cases refused
  · rename_i failed
    cases refused
    exact pathFault?_of_makeDirectory failed
  · rename_i other noValue _
    split at refused
    · cases refused
    · exact absurd (Except.error.inj refused) (noValue fault)

theorem pathFault?_of_makeBelow (refused : (files.makeBelow path).2 = .error (.value fault)) :
    pathFault? path = some fault := by
  unfold makeBelow at refused
  split at refused
  · cases refused
  · exact pathFault?_of_makeUnlessStanding refused

/-- Only a beginning of the path that is no path keeps the call from being made at all. -/
theorem pathFault?_of_ensureDirectory (refused : (files.ensureDirectory path).2 = .error (.value fault)) :
    ∃ front, front <+: path ∧ pathFault? front = some fault := by
  have all : ∀ bound path, (files.makeDirectories bound path).2 = .error (.value fault) →
      ∃ front, front <+: path ∧ pathFault? front = some fault := by
    intro bound
    induction bound with
    | zero =>
      intro path refused
      exact ⟨path, List.prefix_refl path, pathFault?_of_makeUnlessStanding refused⟩
    | succ deeper inductionHypothesis =>
      intro path refused
      rw [makeDirectories] at refused
      split at refused
      · split at refused
        · exact ⟨path, List.prefix_refl path, pathFault?_of_makeBelow refused⟩
        · exact ⟨path, List.prefix_refl path, pathFault?_of_makeBelow refused⟩
        · rename_i made
          have failed := (congrArg Prod.snd made).trans refused
          obtain ⟨front, begins, unfit⟩ := inductionHypothesis _ failed
          exact ⟨front, begins.trans (prefix_headAndTail path), unfit⟩
      · exact ⟨path, List.prefix_refl path, pathFault?_of_makeUnlessStanding refused⟩
  exact all path.length path refused

end Unfit

end TraceAutomata.FileSystem
