import TraceAutomata.Proofs.Builder.Naming
import TraceAutomata.Proofs.Xml.Marks

/-!
# References of a document

Locations are told apart in a document by their names alone. `ReferencesResolve` says in terms of the
document's own tags what a model checker relies on: no two location elements carry one identifier, and each
reference of a template block is the identifier of one location element, which stands in the same block and
is the one of the location that the network means.

Names are built from stems that the caller chooses, so the numbers behind the stems are what keeps them
apart, and escaping keeps apart what is written of them.
-/

namespace TraceAutomata.Xml

/-- Different values are escaped differently. -/
theorem escapeAttribute_injective : Function.Injective escapeAttribute := by
  intro left right same
  have closed : (escapeAttribute left).toList ++ ['"'] = (escapeAttribute right).toList ++ ['"'] := by
    rw [same]
  exact (escapeAttribute_cancel closed).1

/-! ## Location elements and references -/

/-- The identifier of a location element. -/
def Mark.locationId? : Mark → Option String
  | .location id => some id
  | _ => none

/-- The name to which an element refers. -/
def Mark.reference? (wanted : Element) : Mark → Option String
  | .reference element name => if element = wanted then some name else none
  | _ => none

/-- The identifiers of the location elements in a row of marks. -/
def locationIds (row : List Mark) : List String :=
  row.filterMap Mark.locationId?

/-- The names to which the elements of a kind refer in a row of marks. -/
def references (wanted : Element) (row : List Mark) : List String :=
  row.filterMap (Mark.reference? wanted)

/-- The identifier of the location element at a place of a template block. -/
def elementId? (document : String) (block place : Nat) : Option String :=
  ((blocks document)[block]?.map locationIds).bind fun ids => ids[place]?

/-- The element that refers to an end of an edge. -/
def endElement : EdgeEnd → Element
  | .source => .source
  | .target => .target

/-- A reference that stands for a stored identifier of a location of a template: it is the identifier of one
location element in the whole document, the one at the location's place in the template's own block. -/
def Resolves (document : String) (block : Nat) (template : Template) (stored : Option Int)
    (reference : String) : Prop :=
  ∃ location place, stored = some location.id ∧
    template.locations.members[place]? = some location ∧
    ∀ otherBlock otherPlace, elementId? document otherBlock otherPlace = some reference ↔
      otherBlock = block ∧ otherPlace = place

/-- The block of a template has an element for each of its locations, one initial reference, and for each of
its edges a transition with one reference for each end; all these references resolve. -/
structure BlockResolves (document : String) (block : Nat) (template : Template) (row : List Mark) :
    Prop where
  locations : locationIds row =
    template.locations.members.map fun location => escapeAttribute location.name
  initial : ∃ reference, references .initial row = [reference] ∧
    Resolves document block template template.initial reference
  edges : List.Forall₂
    (fun edge transition => ∀ which, ∃ reference,
      references (endElement which) transition = [reference] ∧
        Resolves document block template (edge.reference which) reference)
    template.edges.members (transitions row)

/-- No two location elements of a document have one identifier, all of them stand in the blocks of the
network's templates, and the references of every block resolve. -/
structure ReferencesResolve (network : Network) (document : String) : Prop where
  distinct : (locationIds (marks document)).Nodup
  inside : locationIds (marks document) = (blocks document).flatMap locationIds
  counted : (blocks document).length = network.templates.members.length
  resolve : ∀ block template row, network.templates.members[block]? = some template →
    (blocks document)[block]? = some row → BlockResolves document block template row

/-! ## What the document of a view says -/

theorem LocationView.locationIds_marks (location : LocationView) :
    locationIds location.marks = [escapeAttribute location.name] := by
  cases comment : location.comment <;> simp [LocationView.marks, locationIds, Mark.locationId?, comment]

theorem LocationView.references_marks (wanted : Element) (location : LocationView) :
    references wanted location.marks = [] := by
  cases comment : location.comment <;> simp [LocationView.marks, references, Mark.reference?, comment]

/-- Whatever is silent about labels hears of an edge only the references to its ends. -/
theorem EdgeView.filterMap_marks {say : Mark → Option String}
    (silent : ∀ keyword text, say (.label keyword text) = none) (edge : EdgeView) :
    edge.marks.filterMap say =
      [Mark.reference .source (escapeAttribute edge.source),
        Mark.reference .target (escapeAttribute edge.target)].filterMap say := by
  have labels : ∀ keyword (held : Option String),
      (held.map fun text => Mark.label keyword (escapeText text)).toList.filterMap say = [] := by
    intro keyword held
    cases held with
    | none => rfl
    | some text => rw [Option.map_some, Option.toList_some, List.filterMap_cons_none (silent _ _), List.filterMap_nil]
  rw [EdgeView.marks, List.filterMap_append, List.filterMap_append, labels, labels, List.append_nil,
    List.append_nil]

theorem EdgeView.locationIds_marks (edge : EdgeView) : locationIds edge.marks = [] :=
  edge.filterMap_marks fun _ _ => rfl

/-- The name of the location at an end of an edge. -/
def EdgeView.nameAt (edge : EdgeView) : EdgeEnd → String
  | .source => edge.source
  | .target => edge.target

theorem EdgeView.references_marks (edge : EdgeView) (wanted : Element) :
    references wanted edge.marks =
      (if .source = wanted then [escapeAttribute edge.source] else [])
        ++ if .target = wanted then [escapeAttribute edge.target] else [] := by
  rw [references, edge.filterMap_marks fun _ _ => rfl]
  cases wanted <;> rfl

/-- A template says the identifiers of its locations in order. -/
theorem TemplateView.locationIds_marks (template : TemplateView) :
    locationIds template.marks =
      template.locations.map fun location => escapeAttribute location.name := by
  have silent : ∀ edge : EdgeView,
      locationIds (.transitionStart :: edge.marks ++ [.transitionEnd]) = [] := by
    intro edge
    have edges := edge.locationIds_marks
    simp only [locationIds] at edges
    simp [locationIds, List.filterMap_cons, Mark.locationId?, edges]
  rw [TemplateView.marks, locationIds, List.filterMap_append, List.filterMap_append,
    filterMap_flatMap_of_one LocationView.locationIds_marks, filterMap_flatMap_of_silent silent]
  simp [Mark.locationId?]

/-- A template has one initial reference. -/
theorem TemplateView.references_initial_marks (template : TemplateView) :
    references .initial template.marks = [escapeAttribute template.initial] := by
  have silent : ∀ edge : EdgeView,
      references .initial (.transitionStart :: edge.marks ++ [.transitionEnd]) = [] := by
    intro edge
    have edges := edge.references_marks .initial
    simp only [references] at edges
    simp [references, List.filterMap_cons, Mark.reference?, edges]
  rw [TemplateView.marks, references, List.filterMap_append, List.filterMap_append,
    filterMap_flatMap_of_silent (LocationView.references_marks .initial),
    filterMap_flatMap_of_silent silent]
  simp [Mark.reference?]

/-- An edge has one reference for each of its ends. -/
theorem EdgeView.references_end_marks (edge : EdgeView) (which : EdgeEnd) :
    references (endElement which) edge.marks = [escapeAttribute (edge.nameAt which)] := by
  rw [references_marks]
  cases which <;> rfl

/-- All location elements stand in the blocks of templates. -/
theorem locationIds_textOfLines (view : View) :
    locationIds (marks (textOfLines view.lines)) =
      (blocks (textOfLines view.lines)).flatMap locationIds := by
  rw [blocks_textOfLines, marks_textOfLines]
  simp [locationIds, List.filterMap_flatMap, List.filterMap_cons, List.flatMap_map, Mark.locationId?]

/-! ## References resolve -/

section Resolution

variable {network : Network} {view : View}

/-- The blocks of a document say the names of the locations of each template. -/
theorem map_locationIds_blocks (seen : view? network = some view) :
    (blocks (textOfLines view.lines)).map locationIds =
      network.templates.members.map fun template =>
        template.locations.members.map fun location => escapeAttribute location.name := by
  rw [blocks_textOfLines, List.map_map]
  have shown := (of_view? seen).2.2
  generalize network.templates.members = templates, view.templates = views at shown ⊢
  induction shown with
  | nil => rfl
  | @cons template view _ _ viewed _ inductionHypothesis =>
    have locations : locationIds view.marks =
        template.locations.members.map fun location => escapeAttribute location.name := by
      rw [TemplateView.locationIds_marks, (of_templateView? viewed).2.2.1, List.map_map]
      rfl
    rw [List.map_cons, List.map_cons, inductionHypothesis, Function.comp_apply, locations]

/-- The location elements are those of the locations, place by place. -/
theorem elementId?_eq_some_iff (seen : view? network = some view) {block place : Nat}
    {reference : String} :
    elementId? (textOfLines view.lines) block place = some reference ↔
      ∃ template location, network.templates.members[block]? = some template ∧
        template.locations.members[place]? = some location ∧
          escapeAttribute location.name = reference := by
  rw [elementId?, ← List.getElem?_map, map_locationIds_blocks seen, List.getElem?_map]
  simp [Option.bind_eq_some_iff]

/-- A registry has each of its members at one place. -/
theorem place_eq_of_getElem?_eq {α : Type} [Identified α] {registry : Registry α} {member : α}
    {place other : Nat} (here : registry.members[place]? = some member)
    (there : registry.members[other]? = some member) : place = other :=
  (List.getElem?_inj (List.getElem?_eq_some_iff.mp here).1 registry.distinct.of_map).mp
    (here.trans there.symm)

/-- A reference that names a location of a template resolves in the block of the template. -/
theorem resolves_of_locationName? (numbered : network.Numbered) (seen : view? network = some view)
    {block : Nat} {template : Template} {stored : Option Int} {name : String}
    (held : network.templates.members[block]? = some template)
    (named : template.locationName? stored = some name) :
    Resolves (textOfLines view.lines) block template stored (escapeAttribute name) := by
  obtain ⟨location, found, rfl⟩ := Option.map_eq_some_iff.mp named
  obtain ⟨wanted, rfl, located⟩ := Option.bind_eq_some_iff.mp found
  have hosted : location ∈ template.locations.members := Registry.mem_of_find? located
  have present : template ∈ network.templates.members := List.mem_of_getElem? held
  obtain ⟨place, placed⟩ := List.mem_iff_getElem?.mp hosted
  have stored : some wanted = some location.id := congrArg some (Registry.identifier_of_find? located).symm
  refine ⟨location, place, stored, placed, fun otherBlock otherPlace => ?_⟩
  rw [elementId?_eq_some_iff seen]
  constructor
  · rintro ⟨other, another, otherHeld, otherPlaced, same⟩
    obtain ⟨rfl, rfl⟩ := numbered.eq_of_name_eq (List.mem_of_getElem? otherHeld) present
      (List.mem_of_getElem? otherPlaced) hosted (escapeAttribute_injective same)
    exact ⟨place_eq_of_getElem?_eq otherHeld held, place_eq_of_getElem?_eq otherPlaced placed⟩
  · rintro ⟨rfl, rfl⟩
    exact ⟨template, location, held, placed, rfl⟩

/-- The names of all locations are written differently. -/
theorem nodup_locationIds (numbered : network.Numbered) (seen : view? network = some view) :
    (locationIds (marks (textOfLines view.lines))).Nodup := by
  have written := numbered.nodup_names.map escapeAttribute_injective
  rw [List.map_flatMap, List.flatMap_def] at written
  rw [locationIds_textOfLines, List.flatMap_def, map_locationIds_blocks seen]
  simpa only [List.map_map, Function.comp_def] using written

/-- The references of one block resolve. -/
theorem blockResolves (numbered : network.Numbered) (seen : view? network = some view)
    {block : Nat} {template : Template} {shown : TemplateView}
    (held : network.templates.members[block]? = some template)
    (viewed : templateView? template = some shown) :
    BlockResolves (textOfLines view.lines) block template shown.marks := by
  obtain ⟨_, _, locations, initial, edges⟩ := of_templateView? viewed
  refine ⟨?_, ?_, ?_⟩
  · rw [TemplateView.locationIds_marks, locations, List.map_map]
    rfl
  · exact ⟨_, shown.references_initial_marks, resolves_of_locationName? numbered seen held initial⟩
  · rw [TemplateView.transitions_marks, List.forall₂_map_right_iff]
    refine edges.imp fun edge edgeShown edgeViewed which => ?_
    have ⟨source, target, _, _⟩ := of_edgeView? edgeViewed
    refine ⟨_, edgeShown.references_end_marks which, ?_⟩
    cases which with
    | source => exact resolves_of_locationName? numbered seen held source
    | target => exact resolves_of_locationName? numbered seen held target

/-- Every reference in the document of a numbered network resolves. -/
theorem referencesResolve_of_numbered (numbered : network.Numbered) (seen : view? network = some view) :
    ReferencesResolve network (textOfLines view.lines) where
  distinct := nodup_locationIds numbered seen
  inside := locationIds_textOfLines view
  counted := by
    rw [blocks_textOfLines, List.length_map, (of_view? seen).2.2.length_eq]
  resolve block template row held among := by
    rw [blocks_textOfLines, List.getElem?_map] at among
    obtain ⟨shown, shownAt, rfl⟩ := Option.map_eq_some_iff.mp among
    obtain ⟨within, rfl⟩ := List.getElem?_eq_some_iff.mp held
    obtain ⟨shownWithin, rfl⟩ := List.getElem?_eq_some_iff.mp shownAt
    exact blockResolves numbered seen held ((of_view? seen).2.2.get within shownWithin)

end Resolution

/-- Whatever commands built a network, and whatever stems and handles they were given, every reference in
its document resolves. -/
theorem referencesResolve_of_render (commands : List Command) {document : String}
    (rendered : (render (Command.runAll {} commands).network).outcome = .ok document) :
    ReferencesResolve (Command.runAll {} commands).network document := by
  obtain ⟨view, seen, rfl⟩ := view_of_render rendered
  exact referencesResolve_of_numbered (Command.numbered_runAll commands) seen

/-- Commands that build two templates and give their locations stems that look like names of locations and
like markup. -/
def crossing : List Command :=
  [.newTemplate "first", .newTemplate "second",
    .newLocation "L_1" (some ⟨0⟩), .newLocation "L" (some ⟨1⟩), .newLocation "\"&quot;" (some ⟨0⟩),
    .setInitialLocation (some ⟨0, 0⟩) (some ⟨0⟩), .setInitialLocation (some ⟨1, 1⟩) (some ⟨1⟩),
    .newEdge (some ⟨0⟩), .setEdgeEnd .source (some ⟨0, 0⟩) (some ⟨2, 0⟩),
    .setEdgeEnd .target (some ⟨0, 0⟩) (some ⟨0, 0⟩)]

/-- Such commands build a network that is rendered. -/
theorem crossing_referencesResolve :
    ∃ document, (render (Command.runAll {} crossing).network).outcome = .ok document ∧
      ReferencesResolve (Command.runAll {} crossing).network document :=
  ⟨_, rfl, referencesResolve_of_render crossing rfl⟩

end TraceAutomata.Xml
