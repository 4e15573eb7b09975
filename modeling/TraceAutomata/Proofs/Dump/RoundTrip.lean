import TraceAutomata.Proofs.Builder.Integrity
import TraceAutomata.Proofs.Dump.Reading
import TraceAutomata.Proofs.Json.Sorting
import TraceAutomata.Proofs.Yaml.Writing
import TraceAutomata.Runtime.Standard

/-!
# Dumps come back

A dump that commands built or that was read is settled, so it is read from its own value: no field is lost on the
way, the owners that the value leaves out included. A dump of scalars also comes back from its texts. Its value
is plain, so a JSON text of it is read as the same value up to the order of entries, which the reader of dumps
does not mind, unless two halves of a surrogate pair stand side by side and are read as one character; of a YAML
text being read alike is a condition. The dump of a network is always one of scalars.
-/

namespace TraceAutomata

open Value (Plain)

/-! ## Dumps of networks -/

/-- A network holds texts, so its dump has no null where something is set. -/
theorem Network.Sound.settled_dump {network : Network} (sound : network.Sound) : network.dump.Settled := by
  intro template present
  obtain ⟨own, among, rfl⟩ := List.mem_map.mp present
  constructor
  · intro location held
    obtain ⟨place, here, rfl⟩ := List.mem_map.mp held
    exact ⟨(sound own among).locationOwner place here, by simp [Location.map]⟩
  · intro edge held
    obtain ⟨arrow, here, rfl⟩ := List.mem_map.mp held
    exact ⟨(sound own among).edgeOwner arrow here, by simp [Edge.map, Expression.map]⟩

/-- Null, an integer or a text stands in every place of a dump. -/
def Dump.Scalar (dump : Dump) : Prop :=
  dump.All fun value => value.isScalar = true

theorem isScalar_of_mem_map {role : Role} {expressions : List (Expression role)}
    {expression : Expression role Value} (among : expression ∈ expressions.map (Expression.map Value.text)) :
    expression.text.isScalar = true := by
  obtain ⟨own, _, rfl⟩ := List.mem_map.mp among
  rfl

/-- Texts stand in the dump of a network, and a number. -/
theorem Network.scalar_dump (network : Network) : network.dump.Scalar where
  name := rfl
  globalDeclarations _ := isScalar_of_mem_map
  systemDeclarations _ := isScalar_of_mem_map
  locationCount := rfl
  templates template present := by
    obtain ⟨own, _, rfl⟩ := List.mem_map.mp present
    refine ⟨rfl, fun _ => isScalar_of_mem_map, fun location held => ?_, fun edge held => ?_⟩
    · obtain ⟨place, _, rfl⟩ := List.mem_map.mp held
      refine ⟨rfl, fun content set => ?_⟩
      obtain ⟨_, _, rfl⟩ := Option.map_eq_some_iff.mp set
      rfl
    · obtain ⟨arrow, _, rfl⟩ := List.mem_map.mp held
      refine ⟨fun condition set => ?_, fun _ => isScalar_of_mem_map⟩
      obtain ⟨_, _, rfl⟩ := Option.map_eq_some_iff.mp set
      rfl

/-- Null, an integer or one of certain texts. -/
def Value.ScalarOf (Kept : String → Prop) (value : Value) : Prop :=
  value.isScalar = true ∧ ∀ own, value = .text own → Kept own

/-- Texts of any kind are certain texts. -/
theorem Dump.Scalar.all {dump : Dump} (scalar : dump.Scalar) : dump.All (Value.ScalarOf fun _ => True) :=
  Dump.All.mono (fun _ isScalar => ⟨isScalar, fun _ _ => trivial⟩) scalar

/-! ## Scalars make a plain value -/

namespace Dump

section Making

variable {Kept : String → Prop} {levels : Nat}

/-- A plain value with integers of any size. -/
abbrev Made (Kept : String → Prop) (levels : Nat) (value : Value) : Prop :=
  Plain (fun _ => True) Kept levels value

theorem made_of_scalar {value : Value} (scalar : value.ScalarOf Kept) : Made Kept levels value := by
  obtain ⟨isScalar, kept⟩ := scalar
  cases value with
  | null => exact .null levels
  | integer number => exact .integer levels trivial
  | text own => exact .text levels (kept own rfl)
  | _ => cases isScalar

theorem made_optional {content : Option Value}
    (scalar : ∀ value, content = some value → value.ScalarOf Kept) : Made Kept levels (optional content) := by
  cases content with
  | none => exact .null levels
  | some value => exact made_of_scalar (scalar value rfl)

theorem made_optionalReference (reference : Option Int) : Made Kept levels (optionalReference reference) := by
  cases reference with
  | none => exact .null levels
  | some number => exact .integer levels trivial

theorem made_members {Member : Type} {write : Member → Value} {members : List Member}
    (each : ∀ member ∈ members, Made Kept levels (write member)) :
    Made Kept (levels + 1) (.list (members.map write)) :=
  .list (List.forall_mem_map.mpr each)

theorem made_contents {role : Role} {expressions : List (Expression role Value)}
    (each : ∀ expression ∈ expressions, expression.text.ScalarOf Kept) :
    Made Kept (levels + 1) (contents expressions) :=
  made_members fun expression among => made_of_scalar (each expression among)

variable (keys : ∀ key : DumpKey, Kept key.text)
include keys

theorem made_mapping {fields : List (DumpKey × Value)} (distinct : (fields.map Prod.fst).Nodup)
    (each : ∀ field ∈ fields, Made Kept levels field.2) : Made Kept (levels + 1) (mapping fields) := by
  rw [mapping_eq]
  exact .mapping (nodup_keyed distinct) (List.forall_mem_map.mpr fun field _ => keys field.1)
    (List.forall_mem_map.mpr each)

theorem made_location {location : Location Value} (scalar : location.All (Value.ScalarOf Kept)) :
    Made Kept (levels + 1) location.toValue := by
  refine made_mapping keys (by simp) ?_
  simp only [List.forall_mem_cons]
  exact ⟨.integer _ trivial, made_of_scalar scalar.name, made_optional scalar.comment, nofun⟩

theorem made_edge {edge : Edge Value} (scalar : edge.All (Value.ScalarOf Kept)) :
    Made Kept (levels + 2) edge.toValue := by
  refine made_mapping keys (by simp) ?_
  simp only [List.forall_mem_cons]
  refine ⟨.integer _ trivial, made_optionalReference _, made_optionalReference _, made_optional ?_,
    made_contents scalar.updates, nofun⟩
  intro value set
  obtain ⟨condition, held, rfl⟩ := Option.map_eq_some_iff.mp set
  exact scalar.guard condition held

theorem made_template {template : Template Value} (scalar : template.All (Value.ScalarOf Kept)) :
    Made Kept (levels + 4) template.toValue := by
  refine made_mapping keys (by simp) ?_
  simp only [List.forall_mem_cons]
  exact ⟨.integer _ trivial, made_of_scalar scalar.name, made_contents scalar.declarations,
    made_members fun location present => made_location keys (scalar.locations location present),
    made_members fun edge present => made_edge keys (scalar.edges edge present), made_optionalReference _, nofun⟩

/-- The value of a dump of scalars is plain and holds six collections within each other at most. -/
theorem made_toValue {dump : Dump} (scalar : dump.All (Value.ScalarOf Kept)) (enough : 6 ≤ levels) :
    Made Kept levels dump.toValue := by
  obtain ⟨levels, rfl⟩ := Nat.exists_eq_add_of_le' enough
  refine made_mapping keys (by simp) ?_
  simp only [List.forall_mem_cons]
  exact ⟨made_of_scalar scalar.name, made_contents scalar.globalDeclarations,
    made_contents scalar.systemDeclarations,
    made_members fun template present => made_template keys (scalar.templates template present),
    made_of_scalar scalar.locationCount, nofun⟩

end Making

/-- The value of a dump of scalars is plain, whatever its texts are. -/
theorem Scalar.made {dump : Dump} (scalar : dump.Scalar) {levels : Nat} (enough : 6 ≤ levels) :
    Made (fun _ => True) levels dump.toValue :=
  made_toValue (fun _ => trivial) scalar.all enough

/-- The keys of a dump are characters. -/
theorem unpaired_key [Runtime] (key : DumpKey) : Json.Unpaired key.text :=
  Json.unpaired_of_assigned (by cases key <;> decide)

/-! ## Coming back -/

/-- Whether a reader reads a text as some value up to the order of entries. -/
def readsAlike {Fault : Type} (read : String → Except Fault Value) (text : String) (value : Value) : Bool :=
  match read text with
  | .ok found => found.sameUpToOrder value
  | .error _ => false

variable {dump : Dump}

/-- A settled dump of scalars is read from every value that is the same up to the order of entries. -/
theorem ofValue_of_sameUpToOrder (settled : dump.Settled) (scalar : dump.Scalar) {found : Value}
    (same : found.sameUpToOrder dump.toValue = true) : Dump.ofValue found = .ok dump :=
  ofValue_of_related recognises_sameUpToOrder settled
    (scalar.mono fun _ isScalar _ => Value.eq_of_sameUpToOrder isScalar) same

/-- Where dumps come from: networks that commands built, and values of any shape that were read. -/
inductive Obtained : Dump → Prop
  | built (commands : List Command) : Obtained (Command.runAll {} commands).network.dump
  | read {value : Value} {dump : Dump} (succeeded : Dump.ofValue value = .ok dump) : Obtained dump

theorem Obtained.settled (obtained : dump.Obtained) : dump.Settled := by
  cases obtained with
  | built commands => exact (Command.sound_runAll commands).settled_dump
  | read succeeded => exact settled_of_ofValue succeeded

section Reading

variable [Runtime]

/-- A dump comes back from its value, and a dump of scalars from its JSON text when no two halves of surrogate
pairs stand side by side in it, and from every JSON or YAML text that is read alike. Integers with too many digits
are all that keeps a text from being written. -/
structure Restored (dump : Dump) : Prop where
  value : Dump.ofValue dump.toValue = .ok dump
  json : dump.All (Value.ScalarOf Json.Unpaired) → ∀ text, dump.toJson = .ok text → Dump.ofJson text = .ok dump
  jsonAlike : dump.Scalar → ∀ text, dump.toJson = .ok text → readsAlike Json.read text dump.toValue = true →
    Dump.ofJson text = .ok dump
  yaml : dump.Scalar → ∀ text, dump.toYaml = .ok text → readsAlike Yaml.read text dump.toValue = true →
    Dump.ofYaml text = .ok dump
  written : dump.Scalar → dump.toValue.hasOverlongInteger = false →
    (∃ text, dump.toJson = .ok text) ∧ ∃ text, dump.toYaml = .ok text

/-- A settled dump of scalars comes back from a JSON text that is read alike. -/
theorem Settled.ofJson_of_readsAlike (settled : dump.Settled) (scalar : dump.Scalar) {text : String}
    (alike : readsAlike Json.read text dump.toValue = true) : Dump.ofJson text = .ok dump := by
  rw [readsAlike] at alike
  split at alike
  · rename_i found read
    simp only [Dump.ofJson, read, ofValue_of_sameUpToOrder settled scalar alike]
    rfl
  · cases alike

/-- A JSON text of scalars in which no two halves make a pair is read alike. -/
theorem readsAlike_toJson (scalar : dump.All (Value.ScalarOf Json.Unpaired)) {text : String}
    (wrote : dump.toJson = .ok text) : readsAlike Json.read text dump.toValue = true := by
  obtain ⟨found, read, same⟩ :=
    Json.read_writtenSorted (made_toValue unpaired_key scalar Json.six_le_nestingLimit) wrote
  simp only [readsAlike, read, same]

theorem Settled.restored (settled : dump.Settled) : dump.Restored where
  value := ofValue_toValue settled
  json unpaired _ wrote :=
    settled.ofJson_of_readsAlike (unpaired.mono fun _ kept => kept.1) (readsAlike_toJson unpaired wrote)
  jsonAlike scalar _ _ alike := settled.ofJson_of_readsAlike scalar alike
  yaml scalar text _ alike := by
    rw [readsAlike] at alike
    split at alike
    · rename_i found read
      simp only [Dump.ofYaml, read, ofValue_of_sameUpToOrder settled scalar alike]
      rfl
    · cases alike
  written scalar fits :=
    ⟨Json.exists_writtenSorted (scalar.made (Nat.le_refl 6)) fits,
      Yaml.exists_written (scalar.made Yaml.six_le_nestingLimit) fits⟩

/-- Every dump that commands built or that was read comes back; the dump of a network is one of scalars and
shows the network; and writing what was read gives the same value when it is read and written again. -/
theorem lossless :
    (∀ dump : Dump, dump.Obtained → dump.Restored) ∧
      (∀ network : Network, network.dump.Scalar ∧ network.dump.shown = network) ∧
      ∀ value normal, (Dump.ofValue value).map Dump.toValue = .ok normal →
        (Dump.ofValue normal).map Dump.toValue = .ok normal := by
  refine ⟨fun dump obtained => obtained.settled.restored,
    fun network => ⟨network.scalar_dump, network.shown_dump⟩, fun value normal normalized => ?_⟩
  cases first : Dump.ofValue value with
  | error fault => simp [first, Except.map] at normalized
  | ok dump =>
    rw [first] at normalized
    obtain rfl := Except.ok.inj normalized
    rw [ofValue_toValue (settled_of_ofValue first)]
    rfl

end Reading

/-- A document that holds one template twice and lacks most fields. -/
def repeated : Value :=
  .mapping [(.text "templates", .list
    [.mapping [(.text "name", .null), (.text "id", .integer 7)],
      .mapping [(.text "name", .text "T"), (.text "id", .integer 7), (.text "init", .integer 3)]])]

/-- The template is kept once, with what it is named last. -/
def repeatedDump : Dump where
  name := .text ""
  templates := .ofList [{ id := 7, name := .text "T", initial := some 3 }]
  locationCount := .integer 0

section Standard

open scoped TraceAutomata.Runtime

/-- Such a dump comes back from its value and its texts. -/
theorem repeated_restored :
    Dump.ofValue repeated = .ok repeatedDump ∧ Dump.ofValue repeatedDump.toValue = .ok repeatedDump ∧
      (∃ text, repeatedDump.toJson = .ok text ∧ Dump.ofJson text = .ok repeatedDump) ∧
      ∃ text, repeatedDump.toYaml = .ok text ∧ Dump.ofYaml text = .ok repeatedDump := by
  have read : Dump.ofValue repeated = .ok repeatedDump := rfl
  have restored := lossless.1 repeatedDump (.read read)
  have unpaired : repeatedDump.All (Value.ScalarOf Json.Unpaired) := by
    refine ⟨⟨rfl, ?_⟩, nofun, nofun, fun template present => ?_, ⟨rfl, nofun⟩⟩
    · rintro _ ⟨⟩
      exact Json.unpaired_of_assigned (by decide)
    · obtain rfl := List.mem_singleton.mp present
      refine ⟨⟨rfl, ?_⟩, nofun, nofun, nofun⟩
      rintro _ ⟨⟩
      exact Json.unpaired_of_assigned (by decide)
  have scalar : repeatedDump.Scalar := unpaired.mono fun _ kept => kept.1
  have alike : (repeatedDump.toYaml.toOption.any fun text =>
      readsAlike Yaml.read text repeatedDump.toValue) = true := by decide +kernel
  obtain ⟨⟨json, wroteJson⟩, ⟨yaml, wroteYaml⟩⟩ := restored.written scalar (by decide +kernel)
  rw [wroteYaml] at alike
  exact ⟨read, restored.value, ⟨json, wroteJson, restored.json unpaired json wroteJson⟩,
    ⟨yaml, wroteYaml, restored.yaml scalar yaml wroteYaml alike⟩⟩

end Standard

end Dump

end TraceAutomata
