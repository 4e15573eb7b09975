import TraceAutomata.Proofs.Builder.Outcome
import TraceAutomata.Proofs.Chain.Shape

/-!
# Traversal builds the chain

While statements are followed the builder always holds one template: `draft` is that builder, and
`standing` the draft of a chain that has certain links. `outcome_extend` says that following one link
adds it to the chain, `follow_statement` that following one statement adds the links of its
expressions, and `outcome_followAll` carries this over the whole trace. The tests that wait for an edge
are the part of the state that the network does not show.
-/

namespace TraceAutomata.Chain

open Traversal Build

/-! ## The builder during a traversal -/

section Draft

variable (config : Config) (name : String) (declared : DeclarationScope → List Declaration)
  (locations : Registry Location) (edges : Registry Edge) (count next : Int)

/-- The only template during a traversal. -/
def draftTemplate : Template :=
  { id := 0, name := templateName config name, declarations := declared .localScope, locations, edges
    initial := some 0 }

/-- The builder during a traversal. -/
def draft : Builder :=
  { network :=
      { name
        globalDeclarations := declared .globalScope
        systemDeclarations := declared .systemScope
        templates := .single (draftTemplate config name declared locations edges)
        locationCount := count }
    nextTemplate := 1
    nextEdge := next }

end Draft

variable {config : Config} {name : String} {declared : DeclarationScope → List Declaration}
  {locations : Registry Location} {edges : Registry Edge} {count next : Int}

theorem newLocation_draft (stem : String) :
    (newLocation stem (some ⟨0⟩) (draft config name declared locations edges count next)).outcome =
      .ok (⟨count, 0⟩, draft config name declared
        (locations.put { id := count, owner := 0, name := locationName stem count })
        edges (count + 1) next) := by
  rw [outcome_newLocation]
  rfl

theorem newEdge_draft :
    (newEdge (some ⟨0⟩) (draft config name declared locations edges count next)).outcome =
      .ok (⟨next, 0⟩, draft config name declared locations
        (edges.put { id := next, owner := 0 }) count (next + 1)) := by
  rw [outcome_newEdge]
  rfl

/-- A location of the draft is found in its only template. -/
theorem resolveLocation_draft {wanted : Int} {location : Location}
    (found : locations.find? wanted = some location) (builder : Builder) :
    (resolveLocation ⟨wanted, 0⟩ (draftTemplate config name declared locations edges) builder).outcome =
      .ok (location, builder) := by
  rw [outcome_resolveLocation]
  simp only [draftTemplate, Template.location?, if_true, found]

/-- Putting an edge again replaces it in the draft. -/
theorem withEdge_draft {present changed : Edge} (same : present.id = changed.id) :
    (draft config name declared locations (edges.put present) count next).withEdge
        (draftTemplate config name declared locations (edges.put present)) changed =
      draft config name declared locations (edges.put changed) count next := by
  have replaced : (edges.put present).put changed = edges.put changed := Registry.put_put same
  show draft config name declared locations ((edges.put present).put changed) count next = _
  rw [replaced]

/-- Putting a location again replaces it in the draft. -/
theorem withLocation_draft {present changed : Location} (same : present.id = changed.id) :
    (draft config name declared (locations.put present) edges count next).withLocation
        (draftTemplate config name declared (locations.put present) edges) changed =
      draft config name declared (locations.put changed) edges count next := by
  have replaced : (locations.put present).put changed = locations.put changed :=
    Registry.put_put same
  show draft config name declared ((locations.put present).put changed) edges count next = _
  rw [replaced]

/-! The edge and the location of a new link are the last ones that were put, so the setters find them. -/

section Setters

variable {edge : Int} {source target : Option Int} {guard : Option Guard} {updates : List Update}

theorem edgeNamed?_draft :
    (draft config name declared locations
        (edges.put { id := edge, owner := 0, source, target, guard, updates })
        count next).edgeNamed? (some ⟨edge, 0⟩) =
      some (draftTemplate config name declared locations
        (edges.put { id := edge, owner := 0, source, target, guard, updates }),
        { id := edge, owner := 0, source, target, guard, updates }) := by
  have found : (edges.put { id := edge, owner := 0, source, target, guard, updates }).find? edge =
      some { id := edge, owner := 0, source, target, guard, updates } := Registry.find?_put_of_eq rfl
  show Option.bind ((edges.put _).find? edge) _ = _
  rw [found]
  rfl

theorem setEdgeEnd_draft (which : EdgeEnd) {wanted : Int} {location : Location}
    (found : locations.find? wanted = some location) :
    (setEdgeEnd which (some ⟨edge, 0⟩) (some ⟨wanted, 0⟩)
      (draft config name declared locations
        (edges.put { id := edge, owner := 0, source, target, guard, updates }) count next)).outcome =
      .ok (true, draft config name declared locations
        (edges.put (Edge.withEnd { id := edge, owner := 0, source, target, guard, updates } which wanted))
        count next) := by
  have named : location.id = wanted := Registry.identifier_of_find? found
  rw [outcome_setEdgeEnd, edgeNamed?_draft]
  show ((resolveLocation _ (draftTemplate config name declared locations _) _).outcome.bind _) = _
  rw [resolveLocation_draft found, Except.bind, named]
  refine congrArg (fun builder => Except.ok (true, builder)) ?_
  cases which <;> exact withEdge_draft rfl

theorem setEdgeGuard_draft (text : String) :
    (setEdgeGuard (some ⟨edge, 0⟩) text
      (draft config name declared locations
        (edges.put { id := edge, owner := 0, source, target, guard, updates }) count next)).outcome =
      .ok (true, draft config name declared locations
        (edges.put { id := edge, owner := 0, source, target, guard := some ⟨text⟩, updates })
        count next) := by
  rw [outcome_setEdgeGuard, edgeNamed?_draft]
  refine congrArg (fun builder => Except.ok (true, builder)) ?_
  exact withEdge_draft rfl

theorem addEdgeUpdate_draft (text : String) :
    (addEdgeUpdate (some ⟨edge, 0⟩) text
      (draft config name declared locations
        (edges.put { id := edge, owner := 0, source, target, guard, updates }) count next)).outcome =
      .ok (true, draft config name declared locations
        (edges.put { id := edge, owner := 0, source, target, guard, updates := updates ++ [⟨text⟩] })
        count next) := by
  rw [outcome_addEdgeUpdate, edgeNamed?_draft]
  refine congrArg (fun builder => Except.ok (true, builder)) ?_
  exact withEdge_draft rfl

theorem setLocationComment_draft (text : String) {location : Int} {label : String}
    {comment : Option String} :
    (setLocationComment (some ⟨location, 0⟩) text
      (draft config name declared
        (locations.put { id := location, owner := 0, name := label, comment }) edges count next)).outcome =
      .ok (true, draft config name declared
        (locations.put { id := location, owner := 0, name := label, comment := some text })
        edges count next) := by
  have found : (locations.put { id := location, owner := 0, name := label, comment }).find? location =
      some { id := location, owner := 0, name := label, comment } := Registry.find?_put_of_eq rfl
  rw [outcome_setLocationComment]
  show ((resolveLocation _ (draftTemplate config name declared _ edges) _).outcome.bind _) = _
  rw [resolveLocation_draft found, Except.bind]
  refine congrArg (fun builder => Except.ok (true, builder)) ?_
  exact withLocation_draft rfl

end Setters

/-- Following a link from a location of the draft adds a location and the edge that leads to it. -/
theorem extend_draft {source : Int} {start : Location} (link : Link)
    (found : locations.find? source = some start) :
    (extend config ⟨0⟩ ⟨source, 0⟩ link
      (draft config name declared locations edges count next)).outcome =
      .ok (⟨count, 0⟩, draft config name declared
        (locations.put
          { id := count, owner := 0, name := locationName config.locationStem count,
            comment := link.shownComment? })
        (edges.put
          { id := next, owner := 0, source := some source, target := some count,
            guard := link.guard.map fun text => ⟨text⟩,
            updates := link.update.toList.map fun text => ⟨text⟩ })
        (count + 1) (next + 1)) := by
  -- The source is still found after the new location was put, whatever its number.
  obtain ⟨kept, foundSource⟩ : ∃ kept, (locations.put
      { id := count, owner := 0, name := locationName config.locationStem count }).find? source =
        some kept := by
    rw [Registry.find?_put]
    split
    · exact ⟨_, rfl⟩
    · exact ⟨start, found⟩
  have foundTarget : (locations.put
      { id := count, owner := 0, name := locationName config.locationStem count }).find? count =
        some { id := count, owner := 0, name := locationName config.locationStem count } :=
    Registry.find?_put_of_eq rfl
  unfold extend
  simp only [outcome_bind, newLocation_draft, newEdge_draft, Except.bind, setEdgeSource, setEdgeTarget,
    setEdgeEnd_draft .source foundSource, setEdgeEnd_draft .target foundTarget, Edge.withEnd]
  obtain ⟨guard, update, comment⟩ := link
  cases shown : Link.shownComment? ⟨guard, update, comment⟩ <;> cases guard <;> cases update <;>
    simp only [outcome_bind, Except.bind, setEdgeGuard_draft, addEdgeUpdate_draft,
      setLocationComment_draft, outcome_pure] <;> rfl

/-! ## Chains with some links -/

/-- The locations of a chain: the initial one, and one for each link. -/
def locationsOf (config : Config) (links : List Link) : List Location :=
  { id := 0, owner := 0, name := locationName config.initialStem 0 }
    :: links.mapIdx (locationOf config)

/-- The builder whose network is a chain that has some links. -/
def standing (config : Config) (name : String) (declared : DeclarationScope → List Declaration)
    (links : List Link) : Builder :=
  draft config name declared (.ofList (locationsOf config links)) (.ofList (links.mapIdx edgeOf))
    (links.length + 1) links.length

/-- The last location of a chain. -/
def lastLocation (links : List Link) : LocationHandle :=
  ⟨links.length, 0⟩

theorem locationsOf_concat (config : Config) (links : List Link) (link : Link) :
    locationsOf config (links ++ [link]) =
      locationsOf config links ++ [locationOf config links.length link] := by
  rw [locationsOf, List.mapIdx_concat]
  rfl

theorem exists_lastLocation (config : Config) (links : List Link) :
    ∃ location, (Registry.ofList (locationsOf config links)).find? links.length = some location := by
  obtain rfl | ⟨earlier, link, rfl⟩ := List.eq_nil_or_concat links
  · exact ⟨{ id := 0, owner := 0, name := locationName config.initialStem 0 }, rfl⟩
  · refine ⟨locationOf config earlier.length link, ?_⟩
    rw [List.concat_eq_append, locationsOf_concat, Registry.ofList_concat]
    refine Registry.find?_put_of_eq ?_
    rw [List.length_append]
    rfl

/-- Following a link from the last location adds the link to the chain. -/
theorem outcome_extend (link : Link) (links : List Link) :
    (extend config ⟨0⟩ (lastLocation links) link (standing config name declared links)).outcome =
      .ok (lastLocation (links ++ [link]), standing config name declared (links ++ [link])) := by
  obtain ⟨last, found⟩ := exists_lastLocation config links
  have counted : ((links ++ [link]).length : Int) = links.length + 1 := by simp
  rw [lastLocation, standing, extend_draft link found, lastLocation, standing, locationsOf_concat,
    List.mapIdx_concat, Registry.ofList_concat, Registry.ofList_concat, counted]
  rfl

/-! ## Declarations -/

/-- The declarations of all scopes when some more were made in one of them. -/
def declareIn (declared : DeclarationScope → List Declaration) (scope : DeclarationScope)
    (texts : List String) (other : DeclarationScope) : List Declaration :=
  if other = scope then declared other ++ texts.map fun text => ⟨text⟩ else declared other

theorem outcome_declare (scope : DeclarationScope) (text : String) (links : List Link) :
    (declare ⟨0⟩ scope text (standing config name declared links)).outcome =
      .ok ((), standing config name (declareIn declared scope [text]) links) := by
  cases scope with
  | globalScope => rfl
  | systemScope => rfl
  | localScope =>
    rw [declare, outcome_addLocalDeclaration]
    rfl

theorem outcome_declareAll (scope : DeclarationScope) (texts : List String) (links : List Link) :
    (declareAll ⟨0⟩ scope texts (standing config name declared links)).outcome =
      .ok ((), standing config name (declareIn declared scope texts) links) := by
  induction texts generalizing declared with
  | nil =>
    have unchanged : declareIn declared scope [] = declared := by
      funext other
      simp [declareIn]
    rw [unchanged]
    rfl
  | cons text rest inductionHypothesis =>
    have both : declareIn (declareIn declared scope [text]) scope rest =
        declareIn declared scope (text :: rest) := by
      funext other
      by_cases same : other = scope <;> simp [declareIn, same]
    rw [declareAll, outcome_bind, outcome_declare, Except.bind, inductionHypothesis, both]

/-! ## Statements -/

/-- Following the rest of an assignment adds a link for each expression, without tests or a comment. -/
theorem outcome_assignRest (updates : List String) (links : List Link) :
    (assignAll config ⟨0⟩ none ⟨lastLocation links, []⟩ updates
      (standing config name declared links)).outcome =
      .ok (⟨lastLocation (links ++ updates.map fun update => { update := some update }), []⟩,
        standing config name declared (links ++ updates.map fun update => { update := some update })) := by
  induction updates generalizing links with
  | nil => simp [assignAll]
  | cons update rest inductionHypothesis =>
    have next := inductionHypothesis (links ++ [{ update := some update }])
    rw [List.append_assoc] at next
    rw [assignAll, outcome_bind]
    show Except.bind (extend config ⟨0⟩ (lastLocation links) { update := some update } _).outcome _ = _
    rw [outcome_extend, Except.bind]
    exact next

/-- The later expressions of an assignment are links without tests. -/
theorem linksFrom_assignRest (updates : List String) (rest : List Occurrence) :
    linksFrom [] (updates.map (fun update => .assignment ⟨update, none⟩) ++ rest) =
      updates.map (fun update => { update := some update }) ++ linksFrom [] rest := by
  induction updates with
  | nil => rfl
  | cons update others inductionHypothesis =>
    rw [List.map_cons, List.cons_append, linksFrom, inductionHypothesis]
    rfl

theorem declarations_singleton (statement : Statement) (scope : DeclarationScope) :
    declarations [statement] scope =
      if statement.kind = .declaration ∧ statement.scope = scope then
        statement.expressions.map fun expression => ⟨expression⟩
      else [] := by
  unfold declarations
  by_cases declares : statement.kind = .declaration ∧ statement.scope = scope <;> simp [declares]

theorem declarations_cons (statement : Statement) (rest : List Statement)
    (scope : DeclarationScope) :
    declarations (statement :: rest) scope =
      declarations [statement] scope ++ declarations rest scope := by
  unfold declarations
  rw [← List.flatMap_append, ← List.filter_append]
  rfl

/-- Following one statement adds the links that its expressions add, and leaves the tests that are then
waiting. -/
theorem follow_statement (statement : Statement) (tests : List String) (links : List Link) :
    ∃ added waiting,
      (followStatement config ⟨0⟩ ⟨lastLocation links, tests⟩ statement
        (standing config name declared links)).outcome =
        .ok (⟨lastLocation (links ++ added), waiting⟩,
          standing config name (fun scope => declared scope ++ declarations [statement] scope)
            (links ++ added)) ∧
      ∀ rest, linksFrom tests (Occurrence.ofStatement statement ++ rest) =
        added ++ linksFrom waiting rest := by
  obtain ⟨kind, expressions, comment, scope⟩ := statement
  cases kind with
  | declaration =>
    refine ⟨[], tests, ?_, linksFrom_declarations tests expressions⟩
    have made : declareIn declared scope expressions =
        fun other => declared other ++ declarations [⟨.declaration, expressions, comment, scope⟩] other := by
      funext other
      rw [declarations_singleton, declareIn]
      by_cases same : other = scope
      · simp [same]
      · simp [same, Ne.symm same]
    simp only [followStatement, outcome_bind, outcome_declareAll, Except.bind, outcome_pure,
      List.append_nil, made]
  | test =>
    refine ⟨[], tests ++ expressions, ?_, linksFrom_tests tests expressions⟩
    simp [followStatement, declarations_singleton]
  | assignment =>
    have nothing : (fun other => declared other ++
        declarations [⟨.assignment, expressions, comment, scope⟩] other) = declared := by
      funext other
      simp [declarations_singleton]
    rw [nothing]
    cases expressions with
    | nil => exact ⟨[], tests, by simp [followStatement, assignAll], fun rest => rfl⟩
    | cons first others =>
      let link : Link := { guard := pendingGuard tests, update := some first, comment }
      refine ⟨link :: others.map (fun update => { update := some update }), [], ?_, ?_⟩
      · rw [followStatement]
        simp only [assignAll]
        rw [outcome_bind, outcome_extend, Except.bind, outcome_assignRest, List.append_assoc]
        rfl
      · intro rest
        rw [Occurrence.ofStatement]
        simp only [List.cons_append, linksFrom, linksFrom_assignRest]
        rfl

/-- Tests that still wait in the end get the last link. -/
theorem outcome_close (tests : List String) (links : List Link) :
    (close config ⟨0⟩ ⟨lastLocation links, tests⟩ (standing config name declared links)).outcome =
      .ok ((), standing config name declared (links ++ linksFrom tests [])) := by
  unfold close pendingGuard
  by_cases none : tests = []
  · simp [none, linksFrom]
  · simp only [none, List.isEmpty_iff, if_false, linksFrom]
    rw [outcome_bind, outcome_extend]
    simp [Except.bind, pendingGuard, none]

/-- Following statements to the end adds the links of all their expressions. -/
theorem outcome_followAll (statements : List Statement) (tests : List String) (links : List Link) :
    ((followAll config ⟨0⟩ ⟨lastLocation links, tests⟩ statements >>= close config ⟨0⟩)
      (standing config name declared links)).outcome =
      .ok ((), standing config name (fun scope => declared scope ++ declarations statements scope)
        (links ++ linksFrom tests (occurrences statements))) := by
  induction statements generalizing declared tests links with
  | nil =>
    have unchanged : (fun scope => declared scope ++ declarations [] scope) = declared := by
      funext scope
      simp [declarations]
    rw [unchanged]
    exact outcome_close tests links
  | cons statement rest inductionHypothesis =>
    obtain ⟨added, waiting, followed, linked⟩ :=
      @follow_statement config name declared statement tests links
    have rested := @inductionHypothesis
      (fun scope => declared scope ++ declarations [statement] scope) waiting (links ++ added)
    have declaredAll : (fun scope =>
        declared scope ++ declarations [statement] scope ++ declarations rest scope) =
          fun scope => declared scope ++ declarations (statement :: rest) scope := by
      funext scope
      rw [List.append_assoc, declarations_cons statement rest]
    have linkedAll : links ++ linksFrom tests (occurrences (statement :: rest)) =
        links ++ added ++ linksFrom waiting (occurrences rest) := by
      rw [occurrences, List.flatMap_cons, linked, List.append_assoc]
      rfl
    rw [declaredAll, ← linkedAll, outcome_bind] at rested
    rw [outcome_bind, followAll, outcome_bind, followed]
    exact rested

/-! ## The whole traversal -/

variable (config name) (statements : List Statement)

/-- The builder that has the links of a trace holds the network that the trace prescribes. -/
theorem standing_links :
    standing config name (declarations statements) (links statements) =
      { network := network config name statements, nextTemplate := 1, nextEdge := length statements } := by
  have locations : Registry.ofList (locationsOf config (links statements)) =
      .numbered (locationAt config statements) (id_locationAt config statements)
        (length statements + 1) := by
    rw [← Registry.ofList_eq_numbered, ← cons_mapIdx_locationOf]
    rfl
  have edges : Registry.ofList ((links statements).mapIdx edgeOf) =
      .numbered (edgeAt statements) (id_edgeAt statements) (length statements) := by
    rw [← Registry.ofList_eq_numbered, ← mapIdx_edgeOf]
  rw [standing, locations, edges, length_links]
  rfl

/-- The numbers below the count of locations are the identifiers of the locations. -/
theorem contains_locations {number : Nat} (within : number < length statements + 1) :
    (template config name statements).locations.contains number = true := by
  rw [Registry.contains_iff]
  exact List.mem_map.mpr ⟨locationAt config statements number,
    List.mem_map.mpr ⟨number, List.mem_range.mpr within, rfl⟩, id_locationAt config statements number⟩

/-- A chain has no problems: its initial location and both ends of each edge are among its locations. -/
theorem problems_network : (network config name statements).problems = [] := by
  have initial : (template config name statements).initialProblems = [] :=
    if_pos (contains_locations config name statements (Nat.succ_pos _))
  have ends : ∀ edge ∈ (template config name statements).edges.members,
      (template config name statements).edgeProblems edge = [] := by
    intro edge present
    obtain ⟨index, within, rfl⟩ := List.mem_map.mp present
    have bounded : index < length statements := List.mem_range.mp within
    have source : (template config name statements).endProblems (edgeAt statements index) .source = [] :=
      if_pos (contains_locations config name statements (Nat.lt_succ_of_lt bounded))
    have target : (template config name statements).endProblems (edgeAt statements index) .target = [] :=
      if_pos (contains_locations config name statements (Nat.succ_lt_succ bounded))
    rw [Template.edgeProblems, source, target]
    rfl
  have whole : (template config name statements).problems = [] := by
    rw [Template.problems, initial, List.nil_append, List.flatMap_eq_nil_iff]
    exact ends
  show [template config name statements].flatMap Template.problems = []
  rw [List.flatMap_singleton, whole]

/-- The first commands leave a chain without links. -/
theorem outcome_begin (rest : TemplateHandle → LocationHandle → Build Network) (builder : Builder) :
    ((do
      newAutomaton name
      let template ← newTemplate (templateName config name)
      let initial ← newLocation config.initialStem (some template)
      setInitialLocation (some initial) (some template)
      rest template initial : Build Network) builder).outcome =
      (rest ⟨0⟩ (lastLocation []) (standing config name (fun _ => []) [])).outcome := by
  rw [outcome_bind, outcome_newAutomaton, Except.bind, outcome_bind, outcome_newTemplate, Except.bind,
    outcome_bind, outcome_newLocation]
  rfl

/-- A traversal answers the network that the trace prescribes, whatever the builder held before. -/
theorem build_outcome (builder : Builder) :
    (build config name statements builder).outcome =
      .ok (network config name statements,
        { network := network config name statements, nextTemplate := 1, nextEdge := length statements }) := by
  have followed : ((followAll config ⟨0⟩ ⟨lastLocation [], []⟩ statements >>= close config ⟨0⟩)
      (standing config name (fun _ => []) [])).outcome =
      .ok ((), standing config name (declarations statements) (links statements)) :=
    outcome_followAll statements [] []
  rw [build, outcome_begin, outcome_bind_assoc, outcome_bind, followed, standing_links]
  simp only [Except.bind, outcome_bind, outcome_get, outcome_report, outcome_finalize,
    problems_network, List.isEmpty_nil, if_true]

theorem answer_build (builder : Builder) :
    (build config name statements builder).answer = .ok (network config name statements) := by
  have built := build_outcome config name statements builder
  unfold Built.outcome at built
  cases answer : (build config name statements builder).answer with
  | error error =>
    rw [answer] at built
    cases built
  | ok found =>
    rw [answer] at built
    exact congrArg Except.ok (Prod.mk.inj (Except.ok.inj built)).1

/-- There is one group of tests before each assignment and one after the last, and a traversal answers
the chain in which each edge carries one assignment and the group before it. -/
theorem outcome_build (builder : Builder) :
    (testGroups statements).length = (assignments statements).length + 1 ∧
      (build config name statements builder).outcome =
        .ok (network config name statements,
          { network := network config name statements
            nextTemplate := 1
            nextEdge := length statements }) :=
  ⟨length_testGroups statements, build_outcome config name statements builder⟩

end TraceAutomata.Chain
