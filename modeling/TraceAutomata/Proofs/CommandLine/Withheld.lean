import TraceAutomata.CommandLine.Options
import TraceAutomata.Proofs.Journal

/-!
# Values that are withheld

A command line gives a setting a value, none, or nothing in the place of one. `givesNothing_of_withholds` says that the
last takes an argument in which two hyphens alone are attached to the name of the option. Everything is said of one
option that is asked for, whose only name is a long one.
-/

namespace TraceAutomata.CommandLine

/-! ## Arguments -/

namespace Flag

variable {asked : Flag} {name : String}

theorem name_of_spelled (only : asked.names = [name]) {text : List Char} (listed : (text, asked) ∈ spelled) :
    text = name.toList := by
  obtain ⟨flag, -, named⟩ := List.mem_flatMap.mp listed
  obtain ⟨own, present, same⟩ := List.mem_map.mp named
  obtain ⟨rfl, rfl⟩ := Prod.mk.inj same
  rw [only] at present
  rw [List.mem_singleton.mp present]

theorem name_of_ofName? (only : asked.names = [name]) {text : List Char} (found : ofName? text = some asked) :
    text = name.toList := by
  obtain ⟨before, after, listed, -⟩ := List.lookup_eq_some_iff.mp found
  apply name_of_spelled only
  rw [listed]
  simp

/-- An only name is not a short one. -/
theorem ofName?_ne_of_short (only : asked.names = [name]) (first second : Char) :
    ofName? [first, second] ≠ some asked := by
  intro found
  have short : name.toList.length = 2 := by
    rw [← name_of_ofName? only found]
    rfl
  cases asked <;> cases only <;> contradiction

end Flag

namespace Argument

/-- An argument that attaches a value to a beginning of a name. -/
def Attaches (name : String) (value argument : List Char) : Prop :=
  ∃ beginning, beginning <+: name.toList ∧ argument = beginning ++ '=' :: value

/-- What an argument may be taken for, as far as operands and the option asked for go: an operand is the argument
itself, and the option has a value attached only where the argument attaches it to the name. -/
inductive TakenFor (asked : Flag) (name : String) (text : List Char) : Argument → Prop
  | operand : TakenFor asked name text (.operand (String.ofList text))
  | unknown : TakenFor asked name text (.unknown (String.ofList text))
  | option {flag : Flag} {short : Bool} {attached : Option (List Char)}
      (own : flag = asked → ∀ value, attached = some value → Attaches name value text) :
      TakenFor asked name text (.option flag short attached)

/-- No option takes two hyphens alone as its value, and none has them attached where it is the one asked for. -/
structure Harmless (asked : Flag) (arguments : List Argument) : Prop where
  values : ∀ flag short attached rest, ¬.option flag short attached :: .operand "--" :: rest <:+ arguments
  own : ∀ short, .option asked short (some ['-', '-']) ∉ arguments

/-- Cutting at the equals sign loses nothing else. -/
theorem eq_of_splitAtEquals {text beginning value : List Char}
    (cut : splitAtEquals text = (beginning, some value)) : text = beginning ++ '=' :: value := by
  unfold splitAtEquals at cut
  dsimp only at cut
  split at cut
  · cases cut
  · rename_i mark rest dropped
    obtain ⟨rfl, rfl⟩ : text.takeWhile (· != '=') = beginning ∧ rest = value := by simpa using cut
    have stopped := List.head_dropWhile_not (p := (· != '=')) (l := text) (by simp [dropped])
    have equals : mark = '=' := by simpa [dropped] using stopped
    subst equals
    rw [← dropped, List.takeWhile_append_dropWhile]

section Taken

variable {asked : Flag} {name : String} {text : List Char} {argument : Argument}

theorem TakenFor.operand_eq {text given : String} (taken : TakenFor asked name text.toList (.operand given)) :
    given = text := by
  generalize whole : text.toList = characters at taken
  cases taken with
  | operand => rw [← whole, String.ofList_toList]

theorem takenFor_self (text : String) : TakenFor asked name text.toList (.operand text) := by
  have kept : TakenFor asked name text.toList (.operand (String.ofList text.toList)) := .operand
  rwa [String.ofList_toList] at kept

theorem takenFor_ofUnknown (text : List Char) : TakenFor asked name text (ofUnknown text) := by
  unfold ofUnknown
  split
  · exact .operand
  · exact .unknown

theorem takenFor_ofLongBeginning (only : asked.names = [name]) (classified : ofLongBeginning text = .ok argument) :
    TakenFor asked name text argument := by
  unfold ofLongBeginning at classified
  split at classified
  rename_i beginning attached cut
  split at classified
  · obtain rfl := Except.ok.inj classified
    exact takenFor_ofUnknown text
  · rename_i whole flag single
    obtain rfl := Except.ok.inj classified
    refine .option ?_
    rintro rfl value rfl
    have among : (whole, flag) ∈ Flag.spelled.filter fun entry => beginning.isPrefixOf entry.1 := by
      rw [single]
      exact List.mem_singleton.mpr rfl
    obtain ⟨listed, starts⟩ := List.mem_filter.mp among
    refine ⟨beginning, ?_, eq_of_splitAtEquals cut⟩
    rw [← Flag.name_of_spelled only listed]
    exact List.isPrefixOf_iff_prefix.mp starts
  · cases classified

theorem takenFor_ofBeginning (only : asked.names = [name])
    (classified : ofHyphenated.ofBeginning text = .ok argument) : TakenFor asked name text argument := by
  unfold ofHyphenated.ofBeginning at classified
  split at classified
  · exact takenFor_ofLongBeginning only classified
  · split at classified
    · rename_i flag found
      obtain rfl := Except.ok.inj classified
      refine .option ?_
      rintro rfl
      exact absurd found (Flag.ofName?_ne_of_short only _ _)
    · obtain rfl := Except.ok.inj classified
      exact takenFor_ofUnknown _
  · obtain rfl := Except.ok.inj classified
    exact takenFor_ofUnknown text

theorem takenFor_ofHyphenated (only : asked.names = [name]) (classified : ofHyphenated text = .ok argument) :
    TakenFor asked name text argument := by
  unfold ofHyphenated at classified
  split at classified
  · obtain rfl := Except.ok.inj classified
    exact .option nofun
  · split at classified
    · rename_i beginning attached cut
      split at classified
      · rename_i flag found
        obtain rfl := Except.ok.inj classified
        refine .option ?_
        rintro rfl value same
        obtain rfl := Option.some.inj same
        have whole := Flag.name_of_ofName? only found
        exact ⟨beginning, whole ▸ List.prefix_rfl, eq_of_splitAtEquals cut⟩
      · exact takenFor_ofBeginning only classified
    · exact takenFor_ofBeginning only classified

theorem takenFor_ofText (only : asked.names = [name]) {text : String} (classified : ofText text = .ok argument) :
    TakenFor asked name text.toList argument := by
  unfold ofText at classified
  split at classified
  · rename_i rest hyphenated
    split at classified
    · obtain rfl := Except.ok.inj classified
      exact takenFor_self text
    · rw [hyphenated]
      exact takenFor_ofHyphenated only classified
  · obtain rfl := Except.ok.inj classified
    exact takenFor_self text

end Taken

section Harmless

variable {asked : Flag} {name : String} {arguments : List Argument}

theorem Harmless.suffix {ending : List Argument} (harmless : Harmless asked arguments)
    (ends : ending <:+ arguments) : Harmless asked ending where
  values flag short attached rest standing := harmless.values flag short attached rest (standing.trans ends)
  own short among := harmless.own short (ends.subset among)

theorem Harmless.tail {argument : Argument} (harmless : Harmless asked (argument :: arguments)) :
    Harmless asked arguments :=
  harmless.suffix (List.suffix_cons _ _)

theorem Harmless.attached_ne {flag : Flag} {short : Bool} {attached : Option (List Char)}
    (harmless : Harmless asked (.option flag short attached :: arguments)) (same : flag = asked) :
    attached ≠ some ['-', '-'] := by
  rintro rfl
  exact harmless.own short (same ▸ List.mem_cons_self)

/-- Without options there is no harm. -/
theorem harmless_of_no_option (free : ∀ flag short attached, .option flag short attached ∉ arguments) :
    Harmless asked arguments where
  values _ _ _ _ standing := free _ _ _ (standing.subset List.mem_cons_self)
  own _ := free _ _ _

/-- In front of harmless arguments there may be any that attaches no two hyphens to the option asked for, unless it
takes them from the next argument. -/
theorem Harmless.cons {argument : Argument} (harmless : Harmless asked arguments)
    (next : ∀ rest, arguments ≠ .operand "--" :: rest)
    (first : ∀ short, argument ≠ .option asked short (some ['-', '-'])) :
    Harmless asked (argument :: arguments) where
  values flag short attached rest standing := by
    rcases List.suffix_cons_iff.mp standing with same | within
    · exact next rest (List.cons.inj same).2.symm
    · exact harmless.values flag short attached rest within
  own short among := by
    rcases List.mem_cons.mp among with same | within
    · exact first short same.symm
    · exact harmless.own short within

/-- The first text is a separator in front of operands, or it is taken for something by itself. -/
theorem ofTexts_cons_cases (only : asked.names = [name]) {text : String} {rest : List String}
    (classified : ofTexts (text :: rest) = .ok arguments) :
    arguments = .separator :: rest.map .operand ∨
      text ≠ "--" ∧ ∃ argument others, TakenFor asked name text.toList argument ∧ ofTexts rest = .ok others ∧
        arguments = argument :: others := by
  rw [ofTexts] at classified
  split at classified
  · exact .inl (Except.ok.inj classified).symm
  · rename_i different
    obtain ⟨argument, first, afterFirst⟩ := bind_eq_ok classified
    obtain ⟨others, following, made⟩ := bind_eq_ok afterFirst
    obtain rfl := Except.ok.inj made
    exact .inr ⟨by simpa using different, argument, others, takenFor_ofText only first, following, rfl⟩

/-- Two hyphens alone are no operand in front of a separator. -/
theorem ofTexts_ne_operand (only : asked.names = [name]) {texts : List String}
    (classified : ofTexts texts = .ok arguments) (rest : List Argument) :
    arguments ≠ .operand "--" :: rest := by
  rintro rfl
  cases texts with
  | nil => cases classified
  | cons text others =>
    obtain separated | ⟨different, argument, following, taken, -, same⟩ := ofTexts_cons_cases only classified
    · cases separated
    · obtain ⟨rfl, -⟩ := List.cons.inj same
      exact different (taken.operand_eq).symm

/-- The arguments of a command line that attaches two hyphens to no beginning of the name. -/
theorem harmless_ofTexts (only : asked.names = [name]) {texts : List String}
    (free : ∀ text ∈ texts, ¬Attaches name ['-', '-'] text.toList)
    (classified : ofTexts texts = .ok arguments) : Harmless asked arguments := by
  induction texts generalizing arguments with
  | nil =>
    obtain rfl := Except.ok.inj classified
    exact harmless_of_no_option (by simp)
  | cons text rest inductionHypothesis =>
    obtain ⟨first, others⟩ := List.forall_mem_cons.mp free
    obtain rfl | ⟨-, argument, following, taken, read, rfl⟩ := ofTexts_cons_cases only classified
    · exact harmless_of_no_option (by simp)
    · refine (inductionHypothesis others read).cons (ofTexts_ne_operand only read) ?_
      rintro short rfl
      cases taken with
      | option own => exact first (own rfl _ rfl)

end Harmless

end Argument

/-! ## Options in an argument -/

namespace Cluster

variable {asked flag : Flag} {name value : String} {cluster : Cluster}

/-- Among short names in a row none takes a value for the option asked for. -/
theorem valued_ne_of_ofShort (only : asked.names = [name]) {text : List Char} (other : flag ≠ asked)
    (made : ofShort flag text = .ok cluster) : cluster.valued ≠ some (asked, value) := by
  induction text generalizing flag cluster with
  | nil =>
    rw [ofShort] at made
    split at made
    · obtain rfl := Except.ok.inj made
      simpa using fun same => absurd same other
    · cases made
  | cons character following inductionHypothesis =>
    rw [ofShort] at made
    split at made
    · obtain rfl := Except.ok.inj made
      simpa using fun same => absurd same other
    · split at made
      · cases made
      · rename_i next found
        split at made
        · split at made <;> obtain rfl := Except.ok.inj made <;> simp
        · cases inner : ofShort next following with
          | error error =>
            rw [inner] at made
            cases made
          | ok others =>
            rw [inner] at made
            obtain rfl := Except.ok.inj made
            have otherNext : next ≠ asked := by
              rintro rfl
              exact Flag.ofName?_ne_of_short only _ _ found
            show others.valued ≠ some (asked, value)
            exact inductionHypothesis otherNext inner

/-- A value in an argument belongs to the option asked for only where it is attached to it. -/
theorem attached_of_valued (only : asked.names = [name]) (takes : asked.takesValue = true) {short : Bool}
    {attached : Option (List Char)} (made : ofOption flag short attached = .ok cluster)
    (valued : cluster.valued = some (asked, value)) : flag = asked ∧ attached = some value.toList := by
  unfold ofOption at made
  split at made
  · split at made <;> obtain rfl := Except.ok.inj made <;> cases valued
  · rename_i text
    split at made
    · obtain rfl := Except.ok.inj made
      obtain ⟨rfl, rfl⟩ : flag = asked ∧ String.ofList text = value := by simpa using valued
      exact ⟨rfl, by rw [String.toList_ofList]⟩
    · rename_i valueless
      split at made
      · refine absurd valued (valued_ne_of_ofShort only ?_ made)
        rintro rfl
        exact valueless takes
      · cases made

end Cluster

/-! ## Reading -/

namespace Reading

/-- Nothing stands in the place of an option's value. -/
def Withholds (reading : Reading) : Flag → Prop
  | .templateName => reading.templateName = some .nothing
  | .logLevel => reading.logLevel = some .nothing
  | _ => False

variable {asked flag : Flag} {name value : String} {reading next : Reading}

theorem nameOf_ne_nothing (given : value ≠ "--") : nameOf value ≠ .nothing := by
  rw [nameOf, if_neg (by simpa using given)]
  nofun

theorem levelOf_ne_nothing (given : value ≠ "--") : levelOf value ≠ .ok .nothing := by
  rw [levelOf, if_neg (by simpa using given)]
  dsimp only
  split <;> simp

theorem withholds_switch (switched : reading.switch flag = .ok next) :
    next.Withholds asked ↔ reading.Withholds asked := by
  unfold switch at switched
  split at switched
  · cases switched
  · obtain rfl := Except.ok.inj switched
    rfl
  · obtain rfl := Except.ok.inj switched
    rfl

theorem withholds_switchAll {flags : List Flag} (switched : reading.switchAll flags = .ok next) :
    next.Withholds asked ↔ reading.Withholds asked := by
  induction flags generalizing reading with
  | nil =>
    obtain rfl := Except.ok.inj switched
    rfl
  | cons flag rest inductionHypothesis =>
    obtain ⟨between, first, others⟩ := bind_eq_ok switched
    rw [inductionHypothesis others, withholds_switch first]

/-- An option is withheld after a value only if it was before, or if the value is its own and two hyphens alone. -/
theorem not_withholds_assign (assigned : reading.assign flag value = .ok next)
    (given : flag = asked → value ≠ "--") (kept : ¬reading.Withholds asked) : ¬next.Withholds asked := by
  unfold assign at assigned
  dsimp only at assigned
  split at assigned
  · obtain rfl := Except.ok.inj assigned
    exact kept
  · obtain rfl := Except.ok.inj assigned
    exact kept
  · obtain rfl := Except.ok.inj assigned
    cases asked with
    | templateName => exact fun same => nameOf_ne_nothing (given rfl) (Option.some.inj same)
    | _ => exact kept
  · obtain ⟨level, named, made⟩ := bind_eq_ok assigned
    obtain rfl := Except.ok.inj made
    cases asked with
    | logLevel => exact fun same => levelOf_ne_nothing (given rfl) (Option.some.inj same ▸ named)
    | _ => exact kept
  · rwa [withholds_switch assigned]

/-- The options of an argument withhold nothing when neither the text attached to it nor the one behind it does. -/
theorem not_withholds_apply (only : asked.names = [name]) (takes : asked.takesValue = true) {short : Bool}
    {attached : Option (List Char)} {cluster : Cluster} {behind : Option (Flag × String)}
    (made : Cluster.ofOption flag short attached = .ok cluster) (applied : reading.apply cluster behind = .ok next)
    (own : flag = asked → attached ≠ some ['-', '-'])
    (other : ∀ flag text, behind = some (flag, text) → text ≠ "--") (kept : ¬reading.Withholds asked) :
    ¬next.Withholds asked := by
  obtain ⟨switched, first, after⟩ := bind_eq_ok applied
  rw [← withholds_switchAll first] at kept
  split at after
  · rename_i option text given
    refine not_withholds_assign after ?_ kept
    rintro rfl rfl
    rcases Option.or_eq_some_iff.mp given with valued | ⟨-, taken⟩
    · obtain ⟨same, withheld⟩ := Cluster.attached_of_valued only takes made valued
      exact own same withheld
    · exact other _ _ taken rfl
  · obtain rfl := Except.ok.inj after
    exact kept

theorem eq_of_nextOperand {arguments : List Argument} {text : String}
    {following : { following : List Argument // following.length < arguments.length }}
    (found : nextOperand arguments = some (text, following)) : arguments = .operand text :: following.val := by
  unfold nextOperand at found
  split at found
  · obtain ⟨rfl, rfl⟩ := Prod.mk.inj (Option.some.inj found)
    rfl
  · cases found

theorem suffix_nextOperand {arguments : List Argument} {text : String}
    {following : { following : List Argument // following.length < arguments.length }}
    (found : nextOperand arguments = some (text, following)) : following.val <:+ arguments :=
  ⟨[.operand text], (eq_of_nextOperand found).symm⟩

theorem suffix_dropSeparator (arguments : List Argument) : dropSeparator arguments <:+ arguments := by
  unfold dropSeparator
  split
  · exact List.suffix_cons _ _
  · exact List.suffix_rfl

/-- Harmless arguments withhold nothing. -/
theorem not_withholds_readAll (only : asked.names = [name]) (takes : asked.takesValue = true)
    {arguments : List Argument} (harmless : Argument.Harmless asked arguments)
    (read : reading.readAll arguments = .ok next) (kept : ¬reading.Withholds asked) : ¬next.Withholds asked := by
  fun_induction readAll reading arguments
  case case1 =>
    obtain rfl := Except.ok.inj read
    exact kept
  -- Operands, separators and unknown arguments are no values of options.
  case case2 inductionHypothesis | case4 inductionHypothesis | case6 inductionHypothesis |
      case7 inductionHypothesis =>
    exact inductionHypothesis harmless.tail read kept
  case case3 inductionHypothesis =>
    exact inductionHypothesis (harmless.tail.suffix (suffix_dropSeparator _)) read kept
  case case5 found _ inductionHypothesis =>
    exact inductionHypothesis (harmless.tail.suffix (suffix_nextOperand found)) read kept
  case case8 | case10 => cases read
  case case9 flag short attached rest cluster made _ inductionHypothesis =>
    obtain ⟨between, applied, others⟩ := bind_eq_ok read
    refine inductionHypothesis between harmless.tail others ?_
    exact not_withholds_apply only takes made applied harmless.attached_ne nofun kept
  case case11 flag short attached rest cluster made waiting _ text following found _ inductionHypothesis =>
    obtain ⟨between, applied, others⟩ := bind_eq_ok read
    refine inductionHypothesis between (harmless.tail.suffix (suffix_nextOperand found)) others ?_
    refine not_withholds_apply only takes made applied harmless.attached_ne ?_ kept
    rintro _ _ same rfl
    obtain ⟨-, rfl⟩ := Prod.mk.inj (Option.some.inj same)
    rw [eq_of_nextOperand found] at harmless
    exact harmless.values flag short attached following.val List.suffix_rfl

end Reading

/-! ## Options -/

/-- Nothing stands in the place of an option's value. -/
def Options.Withholds (options : Options) : Flag → Prop
  | .templateName => options.templateName = some .nothing
  | .logLevel => options.logLevel = some .nothing
  | _ => False

/-- Some argument attaches two hyphens alone to a beginning of an option's name. -/
def GivesNothing (flag : Flag) (arguments : List String) : Prop :=
  ∃ argument ∈ arguments, ∃ name ∈ flag.names, Argument.Attaches name ['-', '-'] argument.toList

variable {arguments : List String} {options : Options} {asked : Flag}

/-- The options hold what was read of the arguments. -/
theorem Options.exists_readAll (given : ofArguments arguments = .ok options) (asked : Flag) :
    ∃ classified reading, Argument.ofTexts arguments = .ok classified ∧
      ({} : Reading).readAll classified = .ok reading ∧ (options.Withholds asked ↔ reading.Withholds asked) := by
  unfold ofArguments at given
  split at given
  · cases given
  · rename_i classified texts
    obtain ⟨reading, read, finished⟩ := bind_eq_ok given
    refine ⟨classified, reading, texts, read, ?_⟩
    unfold Reading.finish at finished
    split at finished
    · cases finished
    · split at finished
      · obtain rfl := Except.ok.inj finished
        rfl
      · cases finished

/-- The value of an option is withheld only where two hyphens alone are attached to its name. -/
theorem givesNothing_of_withholds (given : Options.ofArguments arguments = .ok options)
    (withheld : options.Withholds asked) : GivesNothing asked arguments := by
  obtain ⟨name, only, takes⟩ : ∃ name, asked.names = [name] ∧ asked.takesValue = true := by
    cases asked with
    | templateName | logLevel => exact ⟨_, rfl, rfl⟩
    | _ => exact withheld.elim
  refine Classical.byContradiction fun free => ?_
  have apart : ∀ text ∈ arguments, ¬Argument.Attaches name ['-', '-'] text.toList :=
    fun text present attaches => free ⟨text, present, name, only ▸ List.mem_singleton.mpr rfl, attaches⟩
  obtain ⟨classified, reading, texts, read, same⟩ := Options.exists_readAll given asked
  have harmless := Argument.harmless_ofTexts only apart texts
  have before : ¬({} : Reading).Withholds asked := by
    cases asked <;> nofun
  exact Reading.not_withholds_readAll only takes harmless read before (same.mp withheld)

end TraceAutomata.CommandLine
