import TraceAutomata.Document.ValueFault
import TraceAutomata.Proofs.Document.Plain

/-!
# Parts of values

What stands within a value: the value itself, and whatever stands within its members, its keys and the values
under them. A value is printable when all integers within it are short and there is room for its levels, and then
all that stands within it can be shown (`Printable.not_unshowable`).
-/

namespace TraceAutomata.Value

/-- A value stands within another, at any depth. -/
inductive Within (part : Value) : Value → Prop
  | self : Within part part
  | first {first second : Value} (inside : Within part first) : Within part (.pair first second)
  | second {first second : Value} (inside : Within part second) : Within part (.pair first second)
  | item {items : List Value} {item : Value} (among : item ∈ items) (inside : Within part item) :
      Within part (.list items)
  | member {items : List Value} {item : Value} (among : item ∈ items) (inside : Within part item) :
      Within part (.set items)
  | key {entries : List (Value × Value)} {entry : Value × Value} (among : entry ∈ entries)
      (inside : Within part entry.1) : Within part (.mapping entries)
  | value {entries : List (Value × Value)} {entry : Value × Value} (among : entry ∈ entries)
      (inside : Within part entry.2) : Within part (.mapping entries)
  | shared {label : Nat} {value : Value} (inside : Within part value) : Within part (.shared label value)

/-- All integers within a value have few enough digits to be written. -/
def ShortIntegers (value : Value) : Prop :=
  ∀ number, Within (.integer number) value → Short number

mutual

/-- How many levels it takes to show a value. -/
def depth : Value → Nat
  | .pair first second => max first.depth second.depth + 1
  | .list items => depthAmong items + 1
  | .set items => if items.isEmpty then 1 else depthAmong items + 2
  | .mapping entries => depthAmongEntries entries + 1
  | .shared _ value => value.depth
  | _ => 1

/-- How many levels the deepest of some members takes. -/
def depthAmong : List Value → Nat
  | [] => 0
  | item :: rest => max item.depth (depthAmong rest)

/-- How many levels the deepest key or value takes. -/
def depthAmongEntries : List (Value × Value) → Nat
  | [] => 0
  | (key, value) :: rest => max (max key.depth value.depth) (depthAmongEntries rest)

end

/-- A value can be shown, with all that stands within it: its integers have few enough digits, and there is room for
its levels. -/
structure Printable [Runtime] (value : Value) : Prop where
  short : value.ShortIntegers
  shallow : value.depth ≤ Runtime.room

/-- Something within a value cannot be shown. -/
def Unshowable [Runtime] (whole : Value) (fault : ValueFault) : Prop :=
  ∃ part, Within part whole ∧ part.showingFault? = some fault

variable {part whole : Value} {entries : List (Value × Value)}

theorem Within.trans {inner : Value} (first : Within inner part) (second : Within part whole) :
    Within inner whole := by
  induction second with
  | self => exact first
  | first _ inductionHypothesis => exact .first inductionHypothesis
  | second _ inductionHypothesis => exact .second inductionHypothesis
  | item among _ inductionHypothesis => exact .item among inductionHypothesis
  | member among _ inductionHypothesis => exact .member among inductionHypothesis
  | key among _ inductionHypothesis => exact .key among inductionHypothesis
  | value among _ inductionHypothesis => exact .value among inductionHypothesis
  | shared _ inductionHypothesis => exact .shared inductionHypothesis

/-- The content of a value stands within it. -/
theorem within_content (whole : Value) : Within whole.content whole := by
  cases whole with
  | shared label value => exact .shared (within_content value)
  | _ => exact .self

/-- The members of a value that is a list stand within it. -/
theorem within_of_mem_content {items : List Value} (list : whole.content = .list items) (among : part ∈ items) :
    Within part whole := by
  apply Within.trans _ (within_content whole)
  rw [list]
  exact .item among .self

/-- A value that is found under a key stands within the mapping. -/
theorem within_of_lookup {key : String} (found : lookup key entries = some part) :
    Within part (.mapping entries) := by
  have listed : ∃ entry ∈ entries, entry.2 = part := by
    fun_induction lookup key entries with
    | case1 => cases found
    | case2 present value rest same => exact ⟨_, List.mem_cons_self, Option.some.inj found⟩
    | case3 present value rest different inductionHypothesis =>
      obtain ⟨entry, among, here⟩ := inductionHypothesis found
      exact ⟨entry, List.mem_cons_of_mem _ among, here⟩
    | case4 first rest noText inductionHypothesis =>
      obtain ⟨entry, among, here⟩ := inductionHypothesis found
      exact ⟨entry, List.mem_cons_of_mem _ among, here⟩
  obtain ⟨entry, among, rfl⟩ := listed
  exact .value among .self

/-! ## Short integers -/

theorem ShortIntegers.of_within (short : whole.ShortIntegers) (inside : Within part whole) : part.ShortIntegers :=
  fun number deeper => short number (deeper.trans inside)

theorem shortIntegers_integer_iff {number : Int} : (Value.integer number).ShortIntegers ↔ Short number := by
  constructor
  · intro short
    exact short number .self
  · rintro short other ⟨⟩
    exact short

theorem shortIntegers_list_iff {items : List Value} :
    (Value.list items).ShortIntegers ↔ ∀ item ∈ items, item.ShortIntegers := by
  constructor
  · intro short item among
    exact short.of_within (.item among .self)
  · intro members number inside
    cases inside with
    | item among deeper => exact members _ among number deeper

theorem shortIntegers_set_iff {items : List Value} :
    (Value.set items).ShortIntegers ↔ ∀ item ∈ items, item.ShortIntegers := by
  constructor
  · intro short item among
    exact short.of_within (.member among .self)
  · intro members number inside
    cases inside with
    | member among deeper => exact members _ among number deeper

theorem shortIntegers_mapping_iff :
    (Value.mapping entries).ShortIntegers ↔ ∀ entry ∈ entries, entry.1.ShortIntegers ∧ entry.2.ShortIntegers := by
  constructor
  · intro short entry among
    exact ⟨short.of_within (.key among .self), short.of_within (.value among .self)⟩
  · intro members number inside
    cases inside with
    | key among deeper => exact (members _ among).1 number deeper
    | value among deeper => exact (members _ among).2 number deeper

theorem shortIntegers_pair_iff {first second : Value} :
    (Value.pair first second).ShortIntegers ↔ first.ShortIntegers ∧ second.ShortIntegers := by
  constructor
  · intro short
    exact ⟨short.of_within (.first .self), short.of_within (.second .self)⟩
  · intro members number inside
    cases inside with
    | first deeper => exact members.1 number deeper
    | second deeper => exact members.2 number deeper

theorem shortIntegers_shared_iff {label : Nat} {value : Value} :
    (Value.shared label value).ShortIntegers ↔ value.ShortIntegers := by
  constructor
  · intro short
    exact short.of_within (.shared .self)
  · intro own number inside
    cases inside with
    | shared deeper => exact own number deeper

/-! ## Levels -/

theorem depth_pos (value : Value) : 1 ≤ value.depth := by
  cases value with
  | set items => rw [depth]; split <;> omega
  | shared label value => exact depth_pos value
  | _ => simp [depth]

theorem depth_le_depthAmong {items : List Value} {item : Value} (among : item ∈ items) :
    item.depth ≤ depthAmong items := by
  induction among with
  | head rest => exact Nat.le_max_left _ _
  | tail first _ inductionHypothesis => exact Nat.le_trans inductionHypothesis (Nat.le_max_right _ _)

theorem depth_le_depthAmongEntries {entry : Value × Value} (among : entry ∈ entries) :
    max entry.1.depth entry.2.depth ≤ depthAmongEntries entries := by
  induction among with
  | head rest => exact Nat.le_max_left _ _
  | tail first _ inductionHypothesis => exact Nat.le_trans inductionHypothesis (Nat.le_max_right _ _)

/-- What stands within a value takes no more levels. -/
theorem Within.depth_le (inside : Within part whole) : part.depth ≤ whole.depth := by
  induction inside with
  | self => exact Nat.le_refl _
  | first _ inductionHypothesis => rw [depth]; omega
  | second _ inductionHypothesis => rw [depth]; omega
  | item among _ inductionHypothesis =>
    have here := depth_le_depthAmong among
    rw [depth]
    omega
  | member among _ inductionHypothesis =>
    have here := depth_le_depthAmong among
    rw [depth, if_neg (by simpa using List.ne_nil_of_mem among)]
    omega
  | key among _ inductionHypothesis =>
    have here := depth_le_depthAmongEntries among
    rw [depth]
    omega
  | value among _ inductionHypothesis =>
    have here := depth_le_depthAmongEntries among
    rw [depth]
    omega
  | shared _ inductionHypothesis => exact inductionHypothesis

/-- Where a level is left, a fault comes from the inside. -/
theorem inside_eq_none {inner : Nat → Option ValueFault} {levels room : Nat} (fits : levels + 1 ≤ room)
    (sound : ∀ left, levels ≤ left → inner left = none) : inside inner room = none := by
  cases room with
  | zero => omega
  | succ left => exact sound left (by omega)

/-- A text has no fault, under whatever labels it stands, if a level is left for it. -/
theorem faultWithin_of_text {value : Value} {own : String} (same : value.content = .text own) {room : Nat}
    (left : 1 ≤ room) (labels : List Nat) : faultWithin labels room value = none := by
  cases value with
  | text text =>
    simp only [faultWithin]
    exact inside_eq_none left fun _ _ => rfl
  | shared label inner =>
    have within : inner.content = .text own := same
    rw [faultWithin]
    split
    · exact inside_eq_none left fun _ _ => rfl
    · exact faultWithin_of_text within left (label :: labels)
  | _ => cases same

mutual

/-- A value with short integers for which there is room has no fault, whatever labels are not followed. -/
theorem ShortIntegers.faultWithin_eq_none {value : Value} (short : value.ShortIntegers) {room : Nat}
    (shallow : value.depth ≤ room) (labels : List Nat) : faultWithin labels room value = none :=
  match value with
  | .null | .boolean _ | .float _ | .text _ | .bytes _ | .date _ | .dateTime _ => by
    simp only [faultWithin]
    exact inside_eq_none shallow fun _ _ => rfl
  | .integer number => by
    rw [faultWithin]
    exact inside_eq_none shallow fun _ _ => if_neg (by simpa [Text.isOverlong, Short] using short number .self)
  | .pair first second => by
    obtain ⟨firstShort, secondShort⟩ := shortIntegers_pair_iff.mp short
    rw [faultWithin]
    refine inside_eq_none shallow fun left fits => ?_
    rw [firstShort.faultWithin_eq_none (by omega) labels, secondShort.faultWithin_eq_none (by omega) labels]
    rfl
  | .list items => by
    rw [faultWithin]
    exact inside_eq_none shallow fun left fits =>
      faultAmong_eq_none items (shortIntegers_list_iff.mp short) fits labels
  | .set items => by
    rw [faultWithin]
    rw [depth] at shallow
    cases items with
    | nil => exact inside_eq_none shallow fun _ _ => rfl
    | cons item rest =>
      exact inside_eq_none shallow fun left fits => inside_eq_none fits fun inner deeper =>
        faultAmong_eq_none (item :: rest) (shortIntegers_set_iff.mp short) deeper labels
  | .mapping entries => by
    rw [faultWithin]
    exact inside_eq_none shallow fun left fits =>
      faultAmongEntries_eq_none entries (shortIntegers_mapping_iff.mp short) fits labels
  | .shared label value => by
    rw [faultWithin]
    split
    · exact inside_eq_none (Nat.le_trans (depth_pos value) shallow) fun _ _ => rfl
    · exact (shortIntegers_shared_iff.mp short).faultWithin_eq_none shallow (label :: labels)

theorem faultAmong_eq_none (items : List Value) (short : ∀ item ∈ items, item.ShortIntegers) {room : Nat}
    (shallow : depthAmong items ≤ room) (labels : List Nat) : faultAmong labels room items = none :=
  match items with
  | [] => rfl
  | item :: rest => by
    obtain ⟨own, others⟩ := List.forall_mem_cons.mp short
    rw [depthAmong] at shallow
    rw [faultAmong, own.faultWithin_eq_none (by omega) labels,
      faultAmong_eq_none rest others (by omega) labels]
    rfl

theorem faultAmongEntries_eq_none (entries : List (Value × Value))
    (short : ∀ entry ∈ entries, entry.1.ShortIntegers ∧ entry.2.ShortIntegers) {room : Nat}
    (shallow : depthAmongEntries entries ≤ room) (labels : List Nat) :
    faultAmongEntries labels room entries = none :=
  match entries with
  | [] => rfl
  | (key, value) :: rest => by
    obtain ⟨own, others⟩ := List.forall_mem_cons.mp short
    have keyShort : key.ShortIntegers := own.1
    have valueShort : value.ShortIntegers := own.2
    rw [depthAmongEntries] at shallow
    rw [faultAmongEntries, keyShort.faultWithin_eq_none (by omega) labels,
      valueShort.faultWithin_eq_none (by omega) labels, faultAmongEntries_eq_none rest others (by omega) labels]
    rfl

end

/-! ## Lists within lists -/

/-- A value inside so many lists, each in the one before it. -/
def nested : Nat → Value → Value
  | 0, value => value
  | levels + 1, value => .list [nested levels value]

/-- Each of the lists takes a level, and the value has what is left. -/
theorem faultWithin_nested (labels : List Nat) (levels room : Nat) (value : Value) :
    faultWithin labels (levels + room) (nested levels value) = faultWithin labels room value := by
  induction levels with
  | zero => rw [Nat.zero_add, nested]
  | succ levels inductionHypothesis =>
    rw [Nat.succ_add, nested, faultWithin, inside, faultAmong, faultAmong, Option.or_none, inductionHypothesis]

/-- Lists that take every level leave none to what is in them. -/
theorem faultWithin_nested_of_le (labels : List Nat) {levels room : Nat} (deep : room ≤ levels)
    (items : List Value) : faultWithin labels room (nested levels (.list items)) = some .nestedTooDeeply := by
  obtain ⟨further, rfl⟩ := Nat.exists_eq_add_of_le deep
  have split : nested (room + further) (.list items) = nested room (nested further (.list items)) := by
    clear deep
    induction room with
    | zero => rw [Nat.zero_add, nested]
    | succ room inductionHypothesis => rw [Nat.succ_add, nested, inductionHypothesis, nested]
  have bare : faultWithin labels 0 (nested further (.list items)) = some .nestedTooDeeply := by
    cases further <;> rw [nested, faultWithin, inside]
  rw [split, ← bare]
  exact faultWithin_nested labels room 0 _

/-! ## Printable values -/

section Printable

variable [Runtime]

/-- The parts of a printable value are printable. -/
theorem Printable.of_within (printable : whole.Printable) (inside : Within part whole) : part.Printable where
  short := printable.short.of_within inside
  shallow := Nat.le_trans inside.depth_le printable.shallow

theorem Printable.content (printable : whole.Printable) : whole.content.Printable :=
  printable.of_within (within_content whole)

theorem printable_null : Value.null.Printable where
  short := by rintro number ⟨⟩
  shallow := Nat.le_trans (by decide) Runtime.roomy

theorem printable_text (value : String) : (Value.text value).Printable where
  short := by rintro number ⟨⟩
  shallow := Nat.le_trans (by simp [depth]) Runtime.roomy

theorem Printable.showingFault?_eq_none (printable : whole.Printable) : whole.showingFault? = none :=
  printable.short.faultWithin_eq_none printable.shallow []

@[simp] theorem Printable.plainText_eq (printable : whole.Printable) : whole.plainText = .ok whole.plain := by
  rw [plainText, printable.showingFault?_eq_none]

@[simp] theorem Printable.shownText_eq (printable : whole.Printable) : whole.shownText = .ok whole.shown := by
  rw [shownText, printable.showingFault?_eq_none]

/-- Nothing within a printable value fails to be shown. -/
theorem Printable.not_unshowable (printable : whole.Printable) {fault : ValueFault} : ¬whole.Unshowable fault := by
  rintro ⟨part, inside, failed⟩
  rw [(printable.of_within inside).showingFault?_eq_none] at failed
  cases failed

/-- The fault of writing a value, as itself or as it is shown, is the one of showing it. -/
theorem showingFault?_of_error {fault : ValueFault}
    (failed : whole.plainText = .error fault ∨ whole.shownText = .error fault) :
    whole.showingFault? = some fault := by
  cases found : whole.showingFault? with
  | none => simp [plainText, shownText, found] at failed
  | some own => simpa [plainText, shownText, found] using failed

end Printable

/-! ## Deciding it -/

mutual

/-- Whether all integers within a value are short. -/
def hasShortIntegers : Value → Bool
  | .integer number => !Text.isOverlong number
  | .pair first second => first.hasShortIntegers && second.hasShortIntegers
  | .list items => allHaveShortIntegers items
  | .set items => allHaveShortIntegers items
  | .mapping entries => allEntriesHaveShortIntegers entries
  | .shared _ value => value.hasShortIntegers
  | _ => true

/-- Whether all integers within some members are short. -/
def allHaveShortIntegers : List Value → Bool
  | [] => true
  | item :: rest => item.hasShortIntegers && allHaveShortIntegers rest

/-- Whether all integers within some keys and values are short. -/
def allEntriesHaveShortIntegers : List (Value × Value) → Bool
  | [] => true
  | (key, value) :: rest =>
    key.hasShortIntegers && value.hasShortIntegers && allEntriesHaveShortIntegers rest

end

mutual

theorem hasShortIntegers_iff : ∀ value : Value, value.hasShortIntegers = true ↔ value.ShortIntegers
  | .null | .boolean _ | .float _ | .text _ | .bytes _ | .date _ | .dateTime _ =>
    iff_of_true rfl (by rintro number ⟨⟩)
  | .integer number => by simp [hasShortIntegers, shortIntegers_integer_iff, Text.isOverlong, Short]
  | .pair first second => by
    simp [hasShortIntegers, shortIntegers_pair_iff, hasShortIntegers_iff first, hasShortIntegers_iff second]
  | .list items => by rw [hasShortIntegers, shortIntegers_list_iff, allHaveShortIntegers_iff items]
  | .set items => by rw [hasShortIntegers, shortIntegers_set_iff, allHaveShortIntegers_iff items]
  | .mapping entries => by rw [hasShortIntegers, shortIntegers_mapping_iff, allEntriesHaveShortIntegers_iff entries]
  | .shared label value => by rw [hasShortIntegers, shortIntegers_shared_iff, hasShortIntegers_iff value]

theorem allHaveShortIntegers_iff : ∀ items : List Value,
    allHaveShortIntegers items = true ↔ ∀ item ∈ items, item.ShortIntegers
  | [] => by simp [allHaveShortIntegers]
  | item :: rest => by
    simp [allHaveShortIntegers, hasShortIntegers_iff item, allHaveShortIntegers_iff rest]

theorem allEntriesHaveShortIntegers_iff : ∀ entries : List (Value × Value),
    allEntriesHaveShortIntegers entries = true ↔
      ∀ entry ∈ entries, entry.1.ShortIntegers ∧ entry.2.ShortIntegers
  | [] => by simp [allEntriesHaveShortIntegers]
  | (key, value) :: rest => by
    simp [allEntriesHaveShortIntegers, hasShortIntegers_iff key, hasShortIntegers_iff value,
      allEntriesHaveShortIntegers_iff rest]

end

instance [Runtime] (value : Value) : Decidable value.Printable :=
  decidable_of_iff (value.hasShortIntegers = true ∧ value.depth ≤ Runtime.room)
    ⟨fun ⟨short, shallow⟩ => ⟨(hasShortIntegers_iff value).mp short, shallow⟩,
      fun printable => ⟨(hasShortIntegers_iff value).mpr printable.short, printable.shallow⟩⟩

end TraceAutomata.Value
