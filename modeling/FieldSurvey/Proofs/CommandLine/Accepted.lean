import FieldSurvey.CommandLine.Words
import FieldSurvey.Proofs.Outcome

/-!
What a command line gives once it has been read: every option stands under the name of a rule, and
its value is one that the rule accepts. Each word keeps this, so whole lines have it.
-/

namespace FieldSurvey

/-- An option as a rule allows it: a switch without a value, or a value that is accepted. Two dashes in
place of a value are never looked at. -/
def OptionRule.Allows (rule : OptionRule) (option : String × Option String) : Prop :=
  option.1 = rule.name ∧
    match rule.takes with
    | none => option.2 = none
    | some accepts => option.2.all accepts = true

def Word.FollowsRules (rules : List OptionRule) : Word → Prop
  | .option rule _ => rule ∈ rules
  | _ => True

namespace CommandLine

/-- Every option follows one of the rules. -/
def FollowRules (rules : List OptionRule) (options : List (String × Option String)) : Prop :=
  ∀ option ∈ options, ∃ rule ∈ rules, rule.Allows option

variable {rules : List OptionRule}

section Words

theorem followsRules_classifyUnknown (word : String) :
    (classifyUnknown word).FollowsRules rules := by
  unfold classifyUnknown
  split <;> exact trivial

theorem followsRules_classifyLong {word : String} {found : Word}
    (classified : classifyLong rules word = .ok found) : found.FollowsRules rules := by
  unfold classifyLong at classified
  simp only at classified
  split at classified
  · rename_i rule isRule
    cases classified
    exact List.mem_of_find?_eq_some isRule
  · split at classified
    · cases classified
      exact followsRules_classifyUnknown word
    · rename_i rule isOnly
      cases classified
      have isFiltered : rule ∈ [rule] := List.mem_singleton_self rule
      rw [← isOnly] at isFiltered
      exact (List.mem_filter.mp isFiltered).1
    · cases classified

theorem followsRules_classify {word : String} {found : Word}
    (classified : classify rules word = .ok found) : found.FollowsRules rules := by
  unfold classify at classified
  split at classified
  · cases classified
    exact trivial
  · exact followsRules_classifyLong classified
  · cases classified
    exact trivial
  · cases classified
    exact followsRules_classifyUnknown word
  · cases classified
    exact trivial

theorem followsRules_classifyAll {words : List String} {found : List Word}
    (classified : classifyAll rules words = .ok found) :
    ∀ word ∈ found, word.FollowsRules rules := by
  induction words generalizing found with
  | nil =>
      cases classified
      exact nofun
  | cons word rest inductionHypothesis =>
      obtain ⟨first, isFirst, classified⟩ := bind_eq_ok.mp classified
      split at classified
      · cases classified
        intro other isOther
        cases List.mem_cons.mp isOther with
        | inl same => exact same ▸ trivial
        | inr isLater =>
            obtain ⟨_, _, rfl⟩ := List.mem_map.mp isLater
            exact trivial
      · obtain ⟨later, isLater, classified⟩ := bind_eq_ok.mp classified
        cases classified
        exact List.forall_mem_cons.mpr ⟨followsRules_classify isFirst, inductionHypothesis isLater⟩

end Words

section Progress

theorem options_takePlain (wanted : Nat) (text : Option String) (progress : Progress) :
    (takePlain wanted text progress).options = progress.options := by
  unfold takePlain
  split <;> rfl

/-- Taking an option adds it, and asking for help ends the reading. -/
theorem followRules_takeOption {rule : OptionRule} {value : Option String}
    {progress next : Progress} (taken : takeOption rule value progress = .ok next)
    (isRule : rule ∈ helpRule :: rules) (follow : FollowRules rules progress.options) :
    FollowRules rules next.options := by
  unfold takeOption at taken
  split at taken
  · cases taken
  · rename_i noHelp
    have isOwn : rule ∈ rules := by
      refine (List.mem_cons.mp isRule).resolve_left fun isHelp => noHelp ?_
      rw [isHelp]
      exact beq_self_eq_true _
    split at taken
    · rename_i isSwitch
      cases taken
      refine List.forall_mem_append.mpr
        ⟨follow, List.forall_mem_singleton.mpr ⟨rule, isOwn, rfl, ?_⟩⟩
      simp only [isSwitch]
    · rename_i accepts takesValue
      split at taken
      · rename_i accepted
        cases taken
        refine List.forall_mem_append.mpr
          ⟨follow, List.forall_mem_singleton.mpr ⟨rule, isOwn, rfl, ?_⟩⟩
        simp only [takesValue]
        exact accepted
      · cases taken

/-- Reading goes from word to word, and each of them keeps the options within the rules. -/
theorem followRules_take {wanted : Nat} {words : List Word} {progress final : Progress}
    (taken : take wanted progress words = .ok final)
    (known : ∀ word ∈ words, word.FollowsRules (helpRule :: rules))
    (follow : FollowRules rules progress.options) : FollowRules rules final.options := by
  -- An option comes from the rules as the word that it was read from, whatever its value is.
  have afterOption {rule : OptionRule} {value : Option String} {start : Progress}
      {later : List Word}
      (continues : ∀ next, take wanted next later = .ok final →
        (∀ word ∈ later, word.FollowsRules (helpRule :: rules)) →
        FollowRules rules next.options → FollowRules rules final.options)
      (goesOn : (takeOption rule value start >>= fun next => take wanted next later) = .ok final)
      (isRule : rule ∈ helpRule :: rules)
      (laterKnown : ∀ word ∈ later, word.FollowsRules (helpRule :: rules))
      (startFollows : FollowRules rules start.options) : FollowRules rules final.options := by
    obtain ⟨next, stepped, rest⟩ := bind_eq_ok.mp goesOn
    exact continues next rest laterKnown (followRules_takeOption stepped isRule startFollows)
  fun_induction take wanted progress words with
  | case1 progress =>
      cases taken
      exact follow
  | case2 progress text rest inductionHypothesis =>
      refine inductionHypothesis taken (List.forall_mem_cons.mp known).2 ?_
      rwa [options_takePlain]
  | case3 progress rest inductionHypothesis =>
      exact inductionHypothesis taken (List.forall_mem_cons.mp known).2 follow
  | case4 => cases taken
  | case5 progress =>
      cases taken
      exact follow
  | case6 progress text rest word inductionHypothesis =>
      have later := (List.forall_mem_cons.mp (List.forall_mem_cons.mp known).2).2
      refine inductionHypothesis taken later ?_
      rwa [options_takePlain]
  | case7 progress rest _ _ inductionHypothesis =>
      exact inductionHypothesis taken (List.forall_mem_cons.mp known).2 follow
  | case8 => cases taken
  | case9 progress rule value rest accepts _ inductionHypothesis =>
      obtain ⟨isRule, later⟩ := List.forall_mem_cons.mp known
      exact afterOption inductionHypothesis taken isRule later follow
  | case10 progress rule rest _ inductionHypothesis =>
      obtain ⟨isRule, later⟩ := List.forall_mem_cons.mp known
      exact afterOption inductionHypothesis taken isRule later follow
  | case11 progress rule accepts _ value later inductionHypothesis =>
      obtain ⟨isRule, rest⟩ := List.forall_mem_cons.mp known
      exact afterOption inductionHypothesis taken isRule (List.forall_mem_cons.mp rest).2 follow
  | case12 => cases taken

end Progress

/-- The options of a command line that has been read follow the rules. -/
theorem followRules_read {wanted : Nat} {words : List String} {line : CommandLine}
    (accepted : read rules wanted words = .ok line) : FollowRules rules line.options := by
  obtain ⟨classified, areWords, accepted⟩ := bind_eq_ok.mp accepted
  obtain ⟨progress, taken, accepted⟩ := bind_eq_ok.mp accepted
  split at accepted
  · cases accepted
  · cases accepted
    exact followRules_take taken (followsRules_classifyAll areWords) nofun

/-- What is given last for a name is allowed by a rule of that name. -/
theorem FollowRules.last {line : CommandLine} (follow : FollowRules rules line.options)
    {name : String} {value : Option String} (isLast : (line.valuesOf name).getLast? = some value) :
    ∃ rule ∈ rules, rule.Allows (name, value) := by
  obtain ⟨option, isOption, rfl⟩ := List.mem_map.mp (List.mem_of_getLast? isLast)
  obtain ⟨isGiven, isNamed⟩ := List.mem_filter.mp isOption
  obtain rfl := eq_of_beq isNamed
  exact follow option isGiven

end CommandLine

end FieldSurvey
