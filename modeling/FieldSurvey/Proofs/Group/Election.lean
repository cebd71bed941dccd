import FieldSurvey.Proofs.Group.Choosing
import FieldSurvey.Proofs.Kernel.Search

/-!
What a vote comes to, whatever is submitted. The best number that is present wins, for the lowest
rank that submitted it, and what is not present does not count. In which order the submissions stand
makes no difference to the best number, unless undefined and defined ones are both present: then the
first of them decides whether the best one is undefined.
-/

namespace FieldSurvey

/-- Equal as numbers, or both undefined. -/
def IsSameNumber (left right : Float) : Prop :=
  Scalar.eq left right = true ∨
    Scalar.isUndefined left = true ∧ Scalar.isUndefined right = true

/-- Who is due to win a vote: a number that is present and that no other present one beats, at the
lowest rank that submitted it. Nobody is, if none is present. -/
def IsLowestBest (extreme : Extreme) (submissions : List (Float × Bool)) :
    Option (Float × Nat) → Prop
  | none => ∀ submission ∈ submissions, submission.2 = false
  | some (value, rank) =>
      submissions[rank]? = some (value, true) ∧
        (∀ number, (number, true) ∈ submissions → extreme.beats number value = false) ∧
        ∀ (lower : Nat) (number : Float), lower < rank → submissions[lower]? = some (number, true) →
          ¬IsSameNumber number value

/-- What counts of a submission. -/
def heard (submission : Float × Bool) : Option Float :=
  if submission.2 then some submission.1 else none

/-- Undefined and defined numbers are both present. -/
def MixesUndefined (submissions : List (Float × Bool)) : Prop :=
  (∃ number, (number, true) ∈ submissions ∧ Scalar.isUndefined number = true) ∧
    ∃ number, (number, true) ∈ submissions ∧ Scalar.isUndefined number = false

/-- Two votes for the same best number, by whatever rank, or for nobody. -/
def AgreeOnBest : Option (Float × Nat) → Option (Float × Nat) → Prop
  | none, none => True
  | some (value, _), some (other, _) => IsSameNumber value other
  | _, _ => False

section Same

variable {left right : Float}

theorem isUndefined_of_same (same : IsSameNumber left right) :
    Scalar.isUndefined left = Scalar.isUndefined right := by
  rcases same with equal | ⟨leftUndefined, rightUndefined⟩
  · have isDefined {number : Float} {rank : Int} (hasRank : orderRank? number = some rank) :
        Scalar.isUndefined number = false := Extreme.isUndefined_eq_false.mpr ⟨rank, hasRank⟩
    cases hasLeft : orderRank? left with
    | none =>
        simp only [Scalar.eq, hasLeft] at equal
        cases equal
    | some low =>
        cases hasRight : orderRank? right with
        | none =>
            simp only [Scalar.eq, hasLeft, hasRight] at equal
            cases equal
        | some high => rw [isDefined hasLeft, isDefined hasRight]
  · rw [leftUndefined, rightUndefined]

/-- The same number beats the same others. -/
theorem Extreme.beats_of_same (extreme : Extreme) (same : IsSameNumber left right)
    {best : Float} (beats : extreme.beats right best = true) : extreme.beats left best = true := by
  obtain ⟨rightDefined, bestDefined⟩ := Extreme.isDefined_of_beats beats
  have leftDefined : Scalar.isUndefined left = false := by rw [isUndefined_of_same same, rightDefined]
  have sameKey : ¬extreme.key right < extreme.key left := by
    intro less
    rcases same with equal | ⟨leftUndefined, _⟩
    · rw [extreme.eq_false_of_key_lt less] at equal
      cases equal
    · rw [leftDefined] at leftUndefined
      cases leftUndefined
  rw [extreme.beats_eq rightDefined bestDefined, decide_eq_true_eq] at beats
  rw [extreme.beats_eq leftDefined bestDefined, decide_eq_true_eq]
  omega

theorem same_of_unbeaten {extreme : Extreme}
    (alike : Scalar.isUndefined left = Scalar.isUndefined right)
    (notBetter : extreme.beats left right = false) (notWorse : extreme.beats right left = false) :
    IsSameNumber left right := by
  cases isUndefined : Scalar.isUndefined left with
  | true => exact .inr ⟨isUndefined, alike ▸ isUndefined⟩
  | false =>
      exact .inl (extreme.eq_of_unbeaten isUndefined (alike ▸ isUndefined) notBetter notWorse)

end Same

section Winner

variable {extreme : Extreme} {submissions others : List (Float × Bool)} {value number : Float}
  {rank lower : Nat}

theorem exists_presentSubmission (isPresent : (number, true) ∈ submissions) :
    ∃ rank, some (number, rank) ∈ presentSubmissions 0 submissions := by
  obtain ⟨rank, submitted⟩ := List.getElem?_of_mem isPresent
  exact ⟨rank, List.mem_of_getElem? (getElem?_presentSubmissions.mpr ⟨submitted, rfl⟩)⟩

theorem leader_number_unbeaten {candidates : List (Option (Float × Nat))}
    {candidate best : Float × Nat}
    (leads : leader (fun candidate best => extreme.beats candidate.1 best.1) candidates = some best)
    (isCandidate : some candidate ∈ candidates) : extreme.beats candidate.1 best.1 = false := by
  let beats (candidate best : Float × Nat) : Bool := extreme.beats candidate.1 best.1
  have irreflexive : ∀ item, beats item item = false := fun item => Extreme.beats_self item.1
  have transitive : ∀ first second third, beats first second = true → beats second third = true →
      beats first third = true := fun _ _ _ => Extreme.beats_trans
  exact leader_unbeaten irreflexive transitive leads candidate isCandidate

theorem select_unbeaten (chosen : select extreme submissions = some (value, rank))
    (isPresent : (number, true) ∈ submissions) : extreme.beats number value = false := by
  obtain ⟨place, isCandidate⟩ := exists_presentSubmission isPresent
  rw [select_eq_leader] at chosen
  exact leader_number_unbeaten chosen isCandidate

/-- A lower rank that submitted the same number would have led already when the winner's turn came,
or lost to one that the winner does not beat either. -/
theorem select_lowest (chosen : select extreme submissions = some (value, rank))
    (isLower : lower < rank) (submitted : submissions[lower]? = some (number, true)) :
    ¬IsSameNumber number value := by
  intro same
  rw [select_eq_leader] at chosen
  obtain ⟨earlier, later, split, takes⟩ := leader_takes_lead chosen
  have atRank : (presentSubmissions 0 submissions)[earlier.length]? = some (some (value, rank)) := by
    rw [split, List.getElem?_append_right (Nat.le_refl _), Nat.sub_self]
    rfl
  have isRank : rank = earlier.length := (getElem?_presentSubmissions.mp atRank).2
  have atLower : (presentSubmissions 0 submissions)[lower]? = some (some (number, lower)) :=
    getElem?_presentSubmissions.mpr ⟨submitted, rfl⟩
  rw [split, List.getElem?_append_left (by omega)] at atLower
  have isEarlier : some (number, lower) ∈ earlier := List.mem_of_getElem? atLower
  cases led : leader (fun candidate best => extreme.beats candidate.1 best.1) earlier with
  | none => cases leader_eq_none.mp led _ isEarlier
  | some old =>
      have unbeaten := leader_number_unbeaten led isEarlier
      rw [extreme.beats_of_same same (takes old led)] at unbeaten
      cases unbeaten

theorem select_ne_none (isPresent : (number, true) ∈ submissions) :
    select extreme submissions ≠ none := by
  intro noWinner
  obtain ⟨rank, isCandidate⟩ := exists_presentSubmission isPresent
  rw [select_eq_leader] at noWinner
  cases leader_eq_none.mp noWinner _ isCandidate

theorem select_isLowestBest (extreme : Extreme) (submissions : List (Float × Bool)) :
    IsLowestBest extreme submissions (select extreme submissions) := by
  cases chosen : select extreme submissions with
  | none =>
      rintro ⟨number, present⟩ isSubmission
      cases present with
      | false => rfl
      | true => exact (select_ne_none isSubmission chosen).elim
  | some winner =>
      exact ⟨submission_of_select chosen, fun _ => select_unbeaten chosen,
        fun _ _ => select_lowest chosen⟩

theorem presentSubmissions_eq (rank : Nat) (submissions : List (Float × Bool)) :
    presentSubmissions rank submissions =
      ((submissions.map heard).zipIdx rank).map fun item => item.1.map fun number =>
        (number, item.2) := by
  unfold presentSubmissions
  rw [List.zipIdx_map, List.map_map]
  apply List.map_congr_left
  rintro ⟨⟨number, present⟩, place⟩ _
  cases present <;> rfl

/-- A vote comes out the same with whatever those submit that are not present. -/
theorem select_of_heard (alike : others.map heard = submissions.map heard) :
    select extreme others = select extreme submissions := by
  rw [select_eq_leader, select_eq_leader, presentSubmissions_eq, alike, ← presentSubmissions_eq]

/-- The best number is as undefined as the first one that is present. -/
theorem isUndefined_select (extreme : Extreme) (submissions : List (Float × Bool)) :
    (select extreme submissions).map (fun chosen => Scalar.isUndefined chosen.1) =
      (submissions.findSome? heard).map Scalar.isUndefined := by
  have firstPresent (rank : Nat) :
      ((presentSubmissions rank submissions).findSome? id).map Prod.fst =
        submissions.findSome? heard := by
    rw [presentSubmissions_eq]
    induction submissions generalizing rank with
    | nil => rfl
    | cons first rest inductionHypothesis =>
        obtain ⟨number, present⟩ := first
        cases present with
        | false => exact inductionHypothesis (rank + 1)
        | true => rfl
  rw [select_eq_leader, isUndefined_leader extreme Prod.fst, ← firstPresent 0, Option.map_map]
  rfl

end Winner

section Order

variable {extreme : Extreme} {submissions permuted : List (Float × Bool)}

theorem isUndefined_of_uniform {left right : Float} (uniform : ¬MixesUndefined submissions)
    (isPresent : (left, true) ∈ submissions) (otherIsPresent : (right, true) ∈ submissions) :
    Scalar.isUndefined left = Scalar.isUndefined right := by
  cases isUndefined : Scalar.isUndefined left <;>
    cases otherUndefined : Scalar.isUndefined right
  · rfl
  · exact (uniform ⟨⟨_, otherIsPresent, otherUndefined⟩, _, isPresent, isUndefined⟩).elim
  · exact (uniform ⟨⟨_, isPresent, isUndefined⟩, _, otherIsPresent, otherUndefined⟩).elim
  · rfl

/-- If the numbers that are present are all defined or all undefined, the best one is the same in
every order: it is among them, and no other one beats it. -/
theorem agreeOnBest_of_perm (uniform : ¬MixesUndefined submissions)
    (isPermuted : permuted.Perm submissions) :
    AgreeOnBest (select extreme submissions) (select extreme permuted) := by
  cases chosen : select extreme submissions with
  | none =>
      cases other : select extreme permuted with
      | none => trivial
      | some winner =>
          have isPresent := List.mem_of_getElem? (submission_of_select other)
          exact (select_ne_none (isPermuted.mem_iff.mp isPresent) chosen).elim
  | some winner =>
      have isPresent := List.mem_of_getElem? (submission_of_select chosen)
      cases other : select extreme permuted with
      | none => exact (select_ne_none (isPermuted.mem_iff.mpr isPresent) other).elim
      | some otherWinner =>
          have otherIsPresent :=
            isPermuted.mem_iff.mp (List.mem_of_getElem? (submission_of_select other))
          have notBetter := select_unbeaten other (isPermuted.mem_iff.mpr isPresent)
          have notWorse := select_unbeaten chosen otherIsPresent
          exact same_of_unbeaten (isUndefined_of_uniform uniform isPresent otherIsPresent)
            notBetter notWorse

/-- Every number that is present stands first in some order, and then decides whether the best one
is undefined. -/
theorem exists_perm_starting {number : Float} (extreme : Extreme)
    (isPresent : (number, true) ∈ submissions) :
    ∃ permuted winner, permuted.Perm submissions ∧ select extreme permuted = some winner ∧
      Scalar.isUndefined winner.1 = Scalar.isUndefined number := by
  obtain ⟨before, after, rfl⟩ := List.append_of_mem isPresent
  have startsWith := isUndefined_select extreme ((number, true) :: (before ++ after))
  obtain ⟨winner, chosen, same⟩ := Option.map_eq_some_iff.mp startsWith
  exact ⟨_, winner, List.perm_middle.symm, chosen, same⟩

theorem agreeOnBest_iff (extreme : Extreme) (submissions : List (Float × Bool)) :
    (∀ permuted, permuted.Perm submissions →
        AgreeOnBest (select extreme submissions) (select extreme permuted)) ↔
      ¬MixesUndefined submissions := by
  refine ⟨?_, fun uniform permuted => agreeOnBest_of_perm uniform⟩
  rintro agree ⟨⟨number, isPresent, isUndefined⟩, other, otherIsPresent, isDefined⟩
  obtain ⟨starting, winner, isStarting, wins, same⟩ := exists_perm_starting extreme isPresent
  obtain ⟨otherStarting, otherWinner, isOther, otherWins, otherSame⟩ :=
    exists_perm_starting extreme otherIsPresent
  have agrees := agree starting isStarting
  have otherAgrees := agree otherStarting isOther
  rw [wins] at agrees
  rw [otherWins] at otherAgrees
  cases chosen : select extreme submissions with
  | none =>
      rw [chosen] at agrees
      exact agrees
  | some best =>
      rw [chosen] at agrees otherAgrees
      have bestUndefined := (isUndefined_of_same agrees).trans (same.trans isUndefined)
      have bestDefined := (isUndefined_of_same otherAgrees).trans (otherSame.trans isDefined)
      rw [bestUndefined] at bestDefined
      cases bestDefined

end Order

namespace ProcessGroup

open Collective

variable {kind : GroupKind} {submissions : List (Float × Bool)}

/-- All processes of a group that vote on what each of them submits end with the same winner. -/
def Elects (kind : GroupKind) (extreme : Extreme) (submissions : List (Float × Bool))
    (winner : Option (Float × Nat)) : Prop :=
  together kind (fun group submission => group.selectExtreme extreme submission.1 submission.2)
    submissions = submissions.map fun _ => .ok winner

theorem elects_iff (connects : kind.Connects submissions.length) {extreme : Extreme}
    {winner : Option (Float × Nat)} :
    Elects kind extreme submissions winner ↔ select extreme submissions = winner := by
  have ended := selectExtreme_all connects extreme Prod.snd
    fun _ chosen => (pure chosen : Collective Float (Option (Float × Nat)))
  simp only [bind_pure] at ended
  have outcome : together kind
      (fun group submission => group.selectExtreme extreme submission.1 submission.2) submissions =
        submissions.map fun _ => .ok (select extreme submissions) := by
    rw [together, ended, seats_shares]
    exact outcomes_finish _
  rw [Elects, outcome, List.map_const', List.map_const', List.replicate_inj]
  simp [Nat.ne_of_gt connects.pos]

/-- A vote ends alike for all processes. It is won by the lowest rank that submitted the best number
of those that are present, whatever the others submit. The best number is the same in every order of
the submissions exactly unless undefined and defined numbers are both present. -/
theorem election_ignores_order_iff (connects : kind.Connects submissions.length)
    (extreme : Extreme) :
    ∃ winner, Elects kind extreme submissions winner ∧ IsLowestBest extreme submissions winner ∧
      (∀ others, others.map heard = submissions.map heard → Elects kind extreme others winner) ∧
      ((∀ permuted, permuted.Perm submissions →
          ∃ other, Elects kind extreme permuted other ∧ AgreeOnBest winner other) ↔
        ¬MixesUndefined submissions) := by
  refine ⟨select extreme submissions, (elects_iff connects).mpr rfl,
    select_isLowestBest extreme submissions, ?_, ?_⟩
  · intro others alike
    have sameLength : others.length = submissions.length := by
      rw [← List.length_map heard, alike, List.length_map]
    exact (elects_iff (sameLength ▸ connects)).mpr (select_of_heard alike)
  · rw [← agreeOnBest_iff extreme]
    refine forall₂_congr fun permuted isPermuted => ?_
    simp only [elects_iff (isPermuted.length_eq ▸ connects : kind.Connects permuted.length),
      exists_eq_left']

/-- Two ranks submit the least number, and one that is not present something undefined. -/
def tiedSubmissions : List (Float × Bool) :=
  [(2.5, true), (Scalar.undefined, false), (1.5, true), (1.5, true)]

theorem election_of_tie_ignores_order :
    GroupKind.lockstep.Connects tiedSubmissions.length ∧ ¬MixesUndefined tiedSubmissions ∧
      ∃ winner other, Elects .lockstep .least tiedSubmissions winner ∧
        Elects .lockstep .least tiedSubmissions.reverse other ∧ AgreeOnBest winner other := by
  have connects : GroupKind.lockstep.Connects tiedSubmissions.length := by decide
  have allDefined : ∀ submission ∈ tiedSubmissions, submission.2 = true →
      Scalar.isUndefined submission.1 = false := by decide +kernel
  have uniform : ¬MixesUndefined tiedSubmissions := by
    rintro ⟨⟨number, isPresent, isUndefined⟩, _⟩
    rw [allDefined _ isPresent rfl] at isUndefined
    cases isUndefined
  obtain ⟨winner, elects, _, _, anyOrder⟩ := election_ignores_order_iff connects .least
  obtain ⟨other, electsOther, agree⟩ := anyOrder.mpr uniform _ (List.reverse_perm tiedSubmissions)
  exact ⟨connects, uniform, winner, other, elects, electsOther, agree⟩

/-- An undefined number that the first rank submits is the best of all, and at a later rank it is
not. -/
theorem undefined_number_wins_if_first :
    Elects .lockstep .least [(Scalar.undefined, true), (1, true)] (some (Scalar.undefined, 0)) ∧
      Elects .lockstep .least [(1, true), (Scalar.undefined, true)] (some (1, 0)) ∧
      ¬IsSameNumber Scalar.undefined 1 := by
  refine ⟨(elects_iff (by decide)).mpr (by decide +kernel),
    (elects_iff (by decide)).mpr (by decide +kernel), fun same => ?_⟩
  have sameDefined := isUndefined_of_same same
  revert sameDefined
  decide +kernel

end ProcessGroup

end FieldSurvey
