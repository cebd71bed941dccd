import FieldSurvey.CommandLine.EngineOptions
import FieldSurvey.Proofs.CommandLine.Accepted
import FieldSurvey.Proofs.Engine.GivenSettings

/-!
The settings of an engine as a command line gives them, and as the mapping gives them that holds what
the options say. The two agree except where an option says something that counts as false: the
command line takes this for an option that is not given, the mapping takes it as it is.
-/

namespace FieldSurvey

open Settings

namespace CommandLine

section Given

/-- What an option holds that was given with a value; two dashes as its value leave an empty list. -/
def heldText : Option String → Value
  | some text => .text text
  | none => .list []

def heldWhole (value : Option String) : Value :=
  match value.bind readWhole? with
  | some number => .whole number
  | none => .list []

/-- The last value given for an option. -/
def last? (name : String) (line : CommandLine) : Option (Option String) :=
  (line.valuesOf name).getLast?

/-- The options that are given, as settings under their names. -/
def givenSettings (line : CommandLine) : List (String × Value) :=
  Registry.present
    [("default_topology", (line.last? "--topology").map heldText),
      ("histogram_bins", (line.last? "--bins").map heldWhole),
      ("quantile_interpolation", (line.last? "--interpolation").map heldText),
      ("log_level", (line.last? "--log-level").map heldText),
      ("use_mpi", (line.last? "--mpi").map fun _ => .truth true)]

/-- The command line and the mapping of what it gives lead to the same settings, or are both refused
because of a value. -/
def ConfiguresAlike (line : CommandLine) : Prop :=
  (∃ settings, line.settings = .ok settings ∧
      ofMapping (.record line.givenSettings) = .ok settings) ∨
    (∃ cause, line.settings = .error cause ∧ cause.category = .value) ∧
      ∃ cause, ofMapping (.record line.givenSettings) = .error cause ∧ cause.category = .value

end Given

section BothWays

variable (line : CommandLine)

/-- What counts as false is replaced. -/
def unlessFalseOr (otherwise : Value) : Option Value → Value
  | some value => if value.scalarIsTrue then value else otherwise
  | none => otherwise

theorem unlessFalse_some {value : Value} (isScalar : value.isTrue = .ok value.scalarIsTrue)
    (otherwise : Value) :
    unlessFalse (some value) otherwise = .ok (unlessFalseOr otherwise (some value)) := by
  unfold unlessFalse unlessFalseOr
  simp only [isScalar, ok_bind]
  split <;> rfl

theorem unlessFalse_textOf (name : String) (otherwise : Value) :
    unlessFalse (some (line.textOf name)) otherwise =
      .ok (unlessFalseOr otherwise ((line.last? name).map heldText)) := by
  unfold textOf valueOf? last?
  cases (line.valuesOf name).getLast? with
  | none => rfl
  | some value =>
      cases value with
      | none => rfl
      | some text => exact unlessFalse_some rfl otherwise

theorem unlessFalse_wholeOf (name : String) (otherwise : Value) :
    unlessFalse (some (line.wholeOf name)) otherwise =
      .ok (unlessFalseOr otherwise ((line.last? name).map heldWhole)) := by
  unfold wholeOf valueOf? last?
  cases (line.valuesOf name).getLast? with
  | none => rfl
  | some value =>
      have isHeld : heldWhole value = match value.bind readWhole? with
        | some number => .whole number
        | none => .list [] := rfl
      rw [Option.join_some, Option.map_some, isHeld]
      cases value.bind readWhole? with
      | none => rfl
      | some number => exact unlessFalse_some rfl otherwise

theorem settings_eq :
    line.settings =
      (unlessFalseOr default.binCount ((line.last? "--bins").map heldWhole)).toWhole >>= fun count =>
        check (unlessFalseOr default.topology ((line.last? "--topology").map heldText))
          (.whole count)
          (unlessFalseOr (.text default.interpolation.name)
            ((line.last? "--interpolation").map heldText))
          (unlessFalseOr (.text default.logLevel) ((line.last? "--log-level").map heldText))
          (.truth (line.gives "--mpi")) := by
  unfold settings ofAttributes
  show (unlessFalse (some (line.textOf "--topology")) default.topology >>= fun topology =>
    unlessFalse (some (line.wholeOf "--bins")) default.binCount >>= fun bins =>
    bins.toWhole >>= fun count =>
    unlessFalse (some (line.textOf "--interpolation")) (.text default.interpolation.name) >>=
      fun interpolation =>
    unlessFalse (some (line.textOf "--log-level")) (.text default.logLevel) >>= fun logLevel =>
    (Value.truth (line.gives "--mpi")).isTrue >>= fun use =>
    check topology (.whole count) interpolation logLevel (.truth use)) = _
  simp only [unlessFalse_textOf, unlessFalse_wholeOf, ok_bind]
  rfl

theorem ofMapping_givenSettings :
    ofMapping (.record line.givenSettings) =
      changedOr (fun count => Value.whole <$> count.toWhole) default.binCount
          ((line.last? "--bins").map heldWhole) >>= fun count =>
        check (((line.last? "--topology").map heldText).getD default.topology) count
          (((line.last? "--interpolation").map heldText).getD (.text default.interpolation.name))
          (((line.last? "--log-level").map heldText).getD (.text default.logLevel))
          (.truth (line.gives "--mpi")) := by
  let slots : Registry (Option Value) :=
    [("default_topology", (line.last? "--topology").map heldText),
      ("histogram_bins", (line.last? "--bins").map heldWhole),
      ("quantile_interpolation", (line.last? "--interpolation").map heldText),
      ("log_level", (line.last? "--log-level").map heldText),
      ("use_mpi", (line.last? "--mpi").map fun _ => .truth true)]
  have distinct : (Registry.names slots).Nodup := by
    show ["default_topology", "histogram_bins", "quantile_interpolation", "log_level",
      "use_mpi"].Nodup
    decide
  have found (name : String) : Registry.find? name line.givenSettings =
      (Registry.find? name slots).join := Registry.find?_present distinct
  have sublist : (Registry.names line.givenSettings).Sublist (Registry.names slots) :=
    Registry.names_present_sublist slots
  have uses : changedOr (fun use => Value.truth <$> use.isTrue) default.useMessagePassing
      ((line.last? "--mpi").map fun _ => .truth true) = .ok (.truth (line.gives "--mpi")) := by
    unfold last? gives
    cases line.valuesOf "--mpi" with
    | nil => rfl
    | cons first rest =>
        rw [List.getLast?_cons]
        rfl
  rw [ofMapping_record (sublist.nodup distinct) fun name isName => sublist.subset isName]
  rw [found, found]
  show changedOr _ _ ((line.last? "--bins").map heldWhole) >>= (fun count =>
    changedOr _ _ ((line.last? "--mpi").map fun _ => .truth true) >>= _) = _
  rw [uses]
  simp only [ok_bind, checkNamed, found]
  rfl

end BothWays

section Accepted

variable {line : CommandLine}

theorem accepts_last {rules : List OptionRule} (follow : FollowRules rules line.options)
    {name : String} {accepts : String → Bool}
    (isRule : ∀ rule ∈ rules, rule.name = name → rule.takes = some accepts) {text : String}
    (isLast : line.last? name = some (some text)) : accepts text = true := by
  obtain ⟨rule, isIn, isNamed, allowed⟩ := follow.last isLast
  rw [isRule rule isIn isNamed.symm] at allowed
  exact allowed

/-- A value that passes a check or is the empty list that two dashes leave. -/
def PassesIfText (passes : Value → Prop) (given : Option Value) : Prop :=
  ∀ value, given = some value → value = .list [] ∨ passes value ∧ value.scalarIsTrue = true

theorem passesIfText_of_accepts (follow : FollowRules engineRules line.options) {name : String}
    {accepts : String → Bool} {passes : Value → Prop}
    (isRule : ∀ rule ∈ engineRules, rule.name = name → rule.takes = some accepts)
    (ofText : ∀ text, accepts text = true →
      passes (.text text) ∧ (Value.text text).scalarIsTrue = true) :
    PassesIfText passes ((line.last? name).map heldText) := by
  intro value isGiven
  obtain ⟨last, isLast, rfl⟩ := Option.map_eq_some_iff.mp isGiven
  cases last with
  | none => exact .inl rfl
  | some text => exact .inr (ofText text (accepts_last follow isRule isLast))

theorem interpolation_passes (follow : FollowRules engineRules line.options) :
    PassesIfText (fun value => ∃ mode, Interpolation.ofValue value = .ok mode)
      ((line.last? "--interpolation").map heldText) := by
  have isRule : ∀ rule ∈ engineRules, rule.name = "--interpolation" →
      rule.takes = some fun value => (Interpolation.ofName? value).isSome := by
    simp [engineRules]
  refine passesIfText_of_accepts follow isRule fun text accepted => ?_
  obtain ⟨mode, isMode⟩ := Option.isSome_iff_exists.mp accepted
  have isNamed := List.find?_some isMode
  obtain rfl : mode.name = text := eq_of_beq isNamed
  cases mode <;> exact ⟨⟨_, rfl⟩, rfl⟩

theorem logLevel_passes (follow : FollowRules engineRules line.options) :
    PassesIfText (fun value => ∃ level, logLevelOf value = .ok level)
      ((line.last? "--log-level").map heldText) := by
  have isRule : ∀ rule ∈ engineRules, rule.name = "--log-level" →
      rule.takes = some fun value => levelNames.contains value := by
    simp [engineRules]
  refine passesIfText_of_accepts follow isRule fun text accepted => ?_
  have isLevel : text ∈ levelNames := List.contains_iff_mem.mp accepted
  simp only [levelNames, List.mem_cons, List.not_mem_nil, or_false] at isLevel
  rcases isLevel with rfl | rfl | rfl | rfl | rfl <;> exact ⟨⟨_, rfl⟩, rfl⟩

end Accepted

section Checks

variable {topology interpolation logLevel use : Value} {count : Int}

theorem check_eq {mode : Interpolation} {level : String}
    (hasMode : Interpolation.ofValue interpolation = .ok mode)
    (hasLevel : logLevelOf logLevel = .ok level) :
    check topology (.whole count) interpolation logLevel use =
      if count ≤ 0 then .error (.binCountSetting (Value.whole count).putInto)
      else .ok ⟨topology, .whole count, mode, level, use⟩ := by
  show (if count ≤ 0 then _ else _ : Except Error Settings) = _
  split
  · rfl
  · show Interpolation.ofValue interpolation >>= _ = _
    rw [hasMode, ok_bind, hasLevel]
    rfl

theorem check_eq_ok {settings : Settings}
    (passed : check topology (.whole count) interpolation logLevel use = .ok settings) :
    0 < count ∧ settings.topology = topology ∧
      (∃ mode, Interpolation.ofValue interpolation = .ok mode) ∧
      ∃ level, logLevelOf logLevel = .ok level := by
  have passed : (if count ≤ 0 then .error _ else Interpolation.ofValue interpolation >>= fun mode =>
      logLevelOf logLevel >>= fun level => .ok ⟨topology, .whole count, mode, level, use⟩ :
        Except Error Settings) = .ok settings := passed
  split at passed
  · cases passed
  · rename_i isPositive
    obtain ⟨mode, hasMode, passed⟩ := bind_eq_ok.mp passed
    obtain ⟨level, hasLevel, passed⟩ := bind_eq_ok.mp passed
    cases passed
    exact ⟨Int.not_le.mp isPositive, rfl, ⟨mode, hasMode⟩, level, hasLevel⟩

theorem check_refused (notPositive : count ≤ 0) :
    ∃ cause, check topology (.whole count) interpolation logLevel use = .error cause ∧
      cause.category = .value :=
  ⟨_, if_pos notPositive, rfl⟩

end Checks

section Alike

variable {line : CommandLine}

theorem heldWhole_cases (value : Option String) :
    heldWhole value = .list [] ∨ ∃ count, heldWhole value = .whole count := by
  unfold heldWhole
  cases value.bind readWhole? with
  | none => exact .inl rfl
  | some count => exact .inr ⟨count, rfl⟩

/-- The bin count of a command line is the one that is given, unless that is 0 or none. -/
theorem binCount_of_line (line : CommandLine) :
    ∃ count, unlessFalseOr default.binCount ((line.last? "--bins").map heldWhole) = .whole count ∧
      (count = 128 ∨ count ≠ 0 ∧ (line.last? "--bins").map heldWhole = some (.whole count)) := by
  cases line.last? "--bins" with
  | none => exact ⟨128, rfl, .inl rfl⟩
  | some value =>
      rw [Option.map_some]
      cases heldWhole_cases value with
      | inl isEmpty => exact ⟨128, by rw [isEmpty]; rfl, .inl rfl⟩
      | inr isWhole =>
          obtain ⟨count, isCount⟩ := isWhole
          rw [isCount]
          by_cases isZero : count = 0
          · exact ⟨128, by rw [isZero]; rfl, .inl rfl⟩
          · exact ⟨count, if_pos (bne_iff_ne.mpr isZero), .inr ⟨isZero, rfl⟩⟩

/-- Where everything that is given counts as true, nothing is replaced. -/
theorem unlessFalseOr_of_true {given : Option Value} (otherwise : Value)
    (countsAsTrue : ∀ value, given = some value → value.scalarIsTrue = true) :
    unlessFalseOr otherwise given = given.getD otherwise := by
  cases given with
  | none => rfl
  | some value => exact if_pos (countsAsTrue value rfl)

theorem givenSettings_countAsTrue_iff :
    (∀ entry ∈ line.givenSettings, entry.2.scalarIsTrue = true) ↔
      (∀ value, (line.last? "--topology").map heldText = some value →
        value.scalarIsTrue = true) ∧
      (∀ value, (line.last? "--bins").map heldWhole = some value → value.scalarIsTrue = true) ∧
      (∀ value, (line.last? "--interpolation").map heldText = some value →
        value.scalarIsTrue = true) ∧
      ∀ value, (line.last? "--log-level").map heldText = some value →
        value.scalarIsTrue = true := by
  constructor
  · intro countAsTrue
    have ofSlot {name : String} {value : Value} {given : Option Value}
        (isSlot : (name, given) ∈ [("default_topology", (line.last? "--topology").map heldText),
          ("histogram_bins", (line.last? "--bins").map heldWhole),
          ("quantile_interpolation", (line.last? "--interpolation").map heldText),
          ("log_level", (line.last? "--log-level").map heldText),
          ("use_mpi", (line.last? "--mpi").map fun _ => .truth true)])
        (isGiven : given = some value) : value.scalarIsTrue = true :=
      countAsTrue (name, value) (Registry.mem_present.mpr (isGiven ▸ isSlot))
    exact ⟨fun _ => ofSlot (.head _), fun _ => ofSlot (.tail _ (.head _)),
      fun _ => ofSlot (.tail _ (.tail _ (.head _))),
      fun _ => ofSlot (.tail _ (.tail _ (.tail _ (.head _))))⟩
  · rintro ⟨ofTopology, ofBins, ofInterpolation, ofLogLevel⟩ ⟨name, value⟩ isEntry
    have isSlot := Registry.mem_present.mp isEntry
    simp only [List.mem_cons, Prod.mk.injEq, List.not_mem_nil, or_false] at isSlot
    rcases isSlot with ⟨-, isGiven⟩ | ⟨-, isGiven⟩ | ⟨-, isGiven⟩ | ⟨-, isGiven⟩ | ⟨-, isGiven⟩
    · exact ofTopology value isGiven.symm
    · exact ofBins value isGiven.symm
    · exact ofInterpolation value isGiven.symm
    · exact ofLogLevel value isGiven.symm
    · obtain ⟨_, _, rfl⟩ := Option.map_eq_some_iff.mp isGiven.symm
      rfl

theorem PassesIfText.of_passes {passes : Value → Prop} {given : Option Value} {otherwise : Value}
    (passesIfText : PassesIfText passes given) (emptyFails : ¬passes (.list []))
    (passed : passes (given.getD otherwise)) :
    ∀ value, given = some value → value.scalarIsTrue = true := by
  rintro value rfl
  cases passesIfText value rfl with
  | inl isEmpty => exact absurd (isEmpty ▸ passed) emptyFails
  | inr isText => exact isText.2

theorem PassesIfText.unlessFalse {passes : Value → Prop} {given : Option Value}
    (passesIfText : PassesIfText passes given) (otherwise : Value)
    (passesOtherwise : passes otherwise) :
    passes (unlessFalseOr otherwise given) := by
  cases given with
  | none => exact passesOtherwise
  | some value =>
      cases passesIfText value rfl with
      | inl isEmpty =>
          rw [isEmpty]
          exact passesOtherwise
      | inr isText =>
          have isKept : unlessFalseOr otherwise (some value) = value := if_pos isText.2
          rw [isKept]
          exact isText.1

/-- A text that is given and yet not replaced by nothing counts as true. -/
theorem topology_countsAsTrue
    (same : unlessFalseOr default.topology ((line.last? "--topology").map heldText) =
      ((line.last? "--topology").map heldText).getD default.topology) :
    ∀ value, (line.last? "--topology").map heldText = some value → value.scalarIsTrue = true := by
  intro value isGiven
  rw [isGiven] at same
  by_contra countsAsFalse
  have isNothing : Value.null = value := (if_neg countsAsFalse).symm.trans same
  obtain ⟨last, _, isText⟩ := Option.map_eq_some_iff.mp isGiven
  rw [← isText] at isNothing
  cases last <;> cases isNothing

/-- The bin count that a mapping is left with is the one that is given, if it is one. -/
theorem binCount_of_mapping {count : Value}
    (read : changedOr (fun count => Value.whole <$> count.toWhole) default.binCount
      ((line.last? "--bins").map heldWhole) = .ok count) :
    ∃ number, count = .whole number ∧
      ∀ value, (line.last? "--bins").map heldWhole = some value → value = .whole number := by
  cases given : line.last? "--bins" with
  | none =>
      rw [given] at read
      cases read
      exact ⟨128, rfl, nofun⟩
  | some last =>
      rw [given, Option.map_some] at read
      cases heldWhole_cases last with
      | inl isEmpty =>
          rw [isEmpty] at read
          cases read
      | inr isWhole =>
          obtain ⟨number, isNumber⟩ := isWhole
          rw [isNumber] at read
          cases read
          refine ⟨number, rfl, fun value isGiven => ?_⟩
          cases isGiven
          exact isNumber

/-- A command line that is accepted is refused for its bin count or for nothing. -/
theorem settings_of_followed (follow : FollowRules engineRules line.options) {count : Int}
    (isCount : unlessFalseOr default.binCount ((line.last? "--bins").map heldWhole) =
      .whole count) :
    ∃ settings : Settings,
      settings.topology = unlessFalseOr default.topology ((line.last? "--topology").map heldText) ∧
      line.settings =
        if count ≤ 0 then .error (.binCountSetting (Value.whole count).putInto)
        else .ok settings := by
  obtain ⟨mode, hasMode⟩ := (interpolation_passes follow).unlessFalse
    (.text default.interpolation.name) ⟨.linear, rfl⟩
  obtain ⟨level, hasLevel⟩ := (logLevel_passes follow).unlessFalse
    (.text default.logLevel) ⟨"WARNING", rfl⟩
  refine ⟨⟨_, .whole count, mode, level, .truth (line.gives "--mpi")⟩, rfl, ?_⟩
  rw [settings_eq, isCount]
  exact check_eq hasMode hasLevel

/-- What both ways of giving it accept counts as true. -/
theorem countAsTrue_of_accepted (follow : FollowRules engineRules line.options)
    {settings : Settings} (lineGives : line.settings = .ok settings)
    (mappingGives : ofMapping (.record line.givenSettings) = .ok settings) :
    ∀ entry ∈ line.givenSettings, entry.2.scalarIsTrue = true := by
  rw [ofMapping_givenSettings] at mappingGives
  obtain ⟨readCount, reads, mappingGives⟩ := bind_eq_ok.mp mappingGives
  obtain ⟨number, rfl, isNumber⟩ := binCount_of_mapping reads
  obtain ⟨isPositive, mappingTopology, hasMode, hasLevel⟩ := check_eq_ok mappingGives
  obtain ⟨count, isCount, _⟩ := binCount_of_line line
  obtain ⟨ofLine, isTopology, isLine⟩ := settings_of_followed follow isCount
  have isSame : settings = ofLine := by
    rw [isLine] at lineGives
    split at lineGives <;> cases lineGives
    rfl
  rw [isSame] at mappingTopology
  refine givenSettings_countAsTrue_iff.mpr
    ⟨topology_countsAsTrue (isTopology.symm.trans mappingTopology), ?_,
      (interpolation_passes follow).of_passes nofun hasMode,
      (logLevel_passes follow).of_passes nofun hasLevel⟩
  intro value isGiven
  rw [isNumber value isGiven]
  exact bne_iff_ne.mpr (by omega)

/-- A command line that is accepted and then refused gives a negative bin count. -/
theorem negative_of_refused (follow : FollowRules engineRules line.options) {cause : Error}
    (refused : line.settings = .error cause) :
    ∃ count : Int, count < 0 ∧ ("histogram_bins", .whole count) ∈ line.givenSettings := by
  obtain ⟨count, isCount, source⟩ := binCount_of_line line
  obtain ⟨settings, _, isLine⟩ := settings_of_followed follow isCount
  rw [isLine] at refused
  split at refused
  · rename_i notPositive
    obtain rfl | ⟨isNonzero, isGiven⟩ := source
    · omega
    · refine ⟨count, by omega, Registry.mem_present.mpr ?_⟩
      rw [← isGiven]
      exact .tail _ (.head _)
  · cases refused

/-- Both ways of giving it refuse a negative bin count. -/
theorem configuresAlike_of_negative {count : Int} (isNegative : count < 0)
    (isEntry : ("histogram_bins", .whole count) ∈ line.givenSettings) : line.ConfiguresAlike := by
  have isGiven : (line.last? "--bins").map heldWhole = some (.whole count) := by
    simpa [eq_comm] using Registry.mem_present.mp isEntry
  have isKept : unlessFalseOr default.binCount (some (.whole count)) = .whole count :=
    if_pos (bne_iff_ne.mpr (by omega))
  refine .inr ⟨?_, ?_⟩
  · rw [settings_eq, isGiven, isKept]
    exact check_refused (by omega)
  · rw [ofMapping_givenSettings, isGiven]
    exact check_refused (by omega)

/-- Where everything that is given counts as true, both ways of giving it make the same checks. -/
theorem ofMapping_eq_settings
    (countAsTrue : ∀ entry ∈ line.givenSettings, entry.2.scalarIsTrue = true) :
    ofMapping (.record line.givenSettings) = line.settings := by
  obtain ⟨ofTopology, ofBins, ofInterpolation, ofLogLevel⟩ :=
    givenSettings_countAsTrue_iff.mp countAsTrue
  obtain ⟨count, isCount, _⟩ := binCount_of_line line
  have isBinCount := (unlessFalseOr_of_true default.binCount ofBins).symm.trans isCount
  have reads : changedOr (fun count => Value.whole <$> count.toWhole) default.binCount
      ((line.last? "--bins").map heldWhole) = .ok (.whole count) := by
    cases given : (line.last? "--bins").map heldWhole with
    | none =>
        rw [given] at isBinCount
        exact congrArg Except.ok isBinCount
    | some value =>
        rw [given] at isBinCount
        obtain rfl : value = .whole count := isBinCount
        rfl
  rw [ofMapping_givenSettings, settings_eq, reads, isCount, unlessFalseOr_of_true _ ofTopology,
    unlessFalseOr_of_true _ ofInterpolation, unlessFalseOr_of_true _ ofLogLevel]
  rfl

/-- A command line that is accepted configures an engine like the mapping of what it gives, exactly if
nothing that it gives counts as false, or else both are refused for a negative bin count. -/
theorem configuresAlike_iff {words : List String} {line : CommandLine}
    (accepted : read engineRules 0 words = .ok line) :
    line.ConfiguresAlike ↔
      (∃ count : Int, count < 0 ∧ ("histogram_bins", .whole count) ∈ line.givenSettings) ∨
        ∀ entry ∈ line.givenSettings, entry.2.scalarIsTrue = true := by
  have follow := followRules_read accepted
  constructor
  · rintro (⟨settings, lineGives, mappingGives⟩ | ⟨⟨cause, lineFails, _⟩, _⟩)
    · exact .inr (countAsTrue_of_accepted follow lineGives mappingGives)
    · exact .inl (negative_of_refused follow lineFails)
  · rintro (⟨count, isNegative, isEntry⟩ | countAsTrue)
    · exact configuresAlike_of_negative isNegative isEntry
    · obtain ⟨count, isCount, _⟩ := binCount_of_line line
      obtain ⟨settings, _, isLine⟩ := settings_of_followed follow isCount
      unfold ConfiguresAlike
      rw [ofMapping_eq_settings countAsTrue, isLine]
      split
      · exact .inr ⟨⟨_, rfl, rfl⟩, _, rfl, rfl⟩
      · exact .inl ⟨_, rfl, rfl⟩

/-- A positive bin count and a switch. -/
theorem configuresAlike_of_sixty_four :
    read engineRules 0 ["--bins", "64", "--mpi"] =
        .ok ⟨[("--bins", some "64"), ("--mpi", none)], []⟩ ∧
      ConfiguresAlike ⟨[("--bins", some "64"), ("--mpi", none)], []⟩ := by
  have accepted : read engineRules 0 ["--bins", "64", "--mpi"] =
      .ok ⟨[("--bins", some "64"), ("--mpi", none)], []⟩ := rfl
  exact ⟨accepted, (configuresAlike_iff accepted).mpr (.inr (by decide))⟩

/-- No bins at all: the command line falls back to the default, and the mapping is refused. -/
theorem zero_bins_configure_unlike :
    read engineRules 0 ["--bins", "0"] = .ok ⟨[("--bins", some "0")], []⟩ ∧
      settings ⟨[("--bins", some "0")], []⟩ = .ok Settings.default ∧
      givenSettings ⟨[("--bins", some "0")], []⟩ = [("histogram_bins", .whole 0)] ∧
      ofMapping (.record [("histogram_bins", .whole 0)]) = .error (.binCountSetting "0") :=
  ⟨rfl, rfl, rfl, rfl⟩

end Alike

end CommandLine

end FieldSurvey
