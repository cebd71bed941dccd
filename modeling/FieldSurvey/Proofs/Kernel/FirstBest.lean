import Mathlib.Data.List.Induction
import FieldSurvey.Group.Operations

/-!
The first best of some candidates, some of which may be missing. A candidate leads until a later one
beats it. Entries of a domain, domains of a process and processes of a group are all chosen in this
way. Where the candidates are ordered by a key, the leader has the least key of all and stands
before all others that have it.
-/

namespace FieldSurvey

variable {γ : Type}

def leading (beats : γ → γ → Bool) : Option γ → Option γ → Option γ
  | best, none => best
  | none, some candidate => some candidate
  | some best, some candidate => if beats candidate best then some candidate else some best

/-- The first best of the candidates that are present. -/
def leader (beats : γ → γ → Bool) (candidates : List (Option γ)) : Option γ :=
  candidates.foldl (leading beats) none

/-- A candidate that no other one beats and that stands before all that are as good. -/
structure IsFirstBest (key : γ → Int) (candidates : List (Option γ)) (best : γ) (place : Nat) :
    Prop where
  stands : candidates[place]? = some (some best)
  least : ∀ (other : Nat) (candidate : γ),
    candidates[other]? = some (some candidate) → key best ≤ key candidate
  first : ∀ (other : Nat) (candidate : γ), other < place →
    candidates[other]? = some (some candidate) → key best < key candidate

namespace IsFirstBest

variable {key : γ → Int} {earlier : List (Option γ)}

theorem of_getElem?_append_singleton {last : Option γ} {other : Nat} {candidate : Option γ}
    (found : (earlier ++ [last])[other]? = some candidate) :
    earlier[other]? = some candidate ∨ (other = earlier.length ∧ last = candidate) := by
  rw [List.getElem?_append] at found
  split at found
  · exact .inl found
  · rename_i beyond
    have isLast : other - earlier.length = 0 := by
      by_contra notLast
      rw [List.getElem?_eq_none (by simp; omega)] at found
      cases found
    rw [isLast] at found
    exact .inr ⟨by omega, Option.some.inj found⟩

theorem append {best : γ} {place : Nat} (isBest : IsFirstBest key earlier best place)
    {last : Option γ} (notBetter : ∀ candidate, last = some candidate → key best ≤ key candidate) :
    IsFirstBest key (earlier ++ [last]) best place := by
  have inEarlier : place < earlier.length :=
    (List.getElem?_eq_some_iff.mp isBest.stands).1
  constructor
  · rw [List.getElem?_append_left inEarlier]
    exact isBest.stands
  · intro other candidate found
    cases of_getElem?_append_singleton found with
    | inl isEarlier => exact isBest.least other candidate isEarlier
    | inr isLast => exact notBetter candidate isLast.2
  · intro other candidate isBefore found
    rw [List.getElem?_append_left (by omega)] at found
    exact isBest.first other candidate isBefore found

theorem of_better {candidate : γ}
    (better : ∀ old, some old ∈ earlier → key candidate < key old) :
    IsFirstBest key (earlier ++ [some candidate]) candidate earlier.length := by
  constructor
  · simp
  · intro other old found
    cases of_getElem?_append_singleton found with
    | inl isEarlier => exact Int.le_of_lt (better old (List.mem_of_getElem? isEarlier))
    | inr isLast =>
        cases Option.some.inj isLast.2
        exact Int.le_refl _
  · intro other old isBefore found
    rw [List.getElem?_append_left isBefore] at found
    exact better old (List.mem_of_getElem? found)

end IsFirstBest

section Leader

variable {beats : γ → γ → Bool}

@[simp] theorem leader_nil : leader beats [] = none := rfl

theorem leader_append (candidates : List (Option γ)) (last : Option γ) :
    leader beats (candidates ++ [last]) = leading beats (leader beats candidates) last := by
  unfold leader
  rw [List.foldl_append]
  rfl

theorem leader_mem {candidates : List (Option γ)} {best : γ}
    (leads : leader beats candidates = some best) : some best ∈ candidates := by
  induction candidates using List.reverseRecOn generalizing best with
  | nil => cases leads
  | append_singleton earlier last inductionHypothesis =>
      rw [leader_append] at leads
      rw [List.mem_append, List.mem_singleton]
      cases last with
      | none => exact .inl (inductionHypothesis leads)
      | some candidate =>
          cases before : leader beats earlier with
          | none =>
              rw [before] at leads
              exact .inr leads.symm
          | some old =>
              rw [before] at leads
              simp only [leading] at leads
              split at leads
              · exact .inr leads.symm
              · cases leads
                exact .inl (inductionHypothesis before)

theorem leader_eq_none {candidates : List (Option γ)} :
    leader beats candidates = none ↔ ∀ candidate ∈ candidates, candidate = none := by
  induction candidates using List.reverseRecOn with
  | nil => simp
  | append_singleton earlier last inductionHypothesis =>
      rw [leader_append]
      constructor
      · intro none_leads candidate isMember
        cases last with
        | some present =>
            cases before : leader beats earlier with
            | none => simp [before, leading] at none_leads
            | some old =>
                rw [before] at none_leads
                simp only [leading] at none_leads
                split at none_leads <;> cases none_leads
        | none =>
            rw [List.mem_append, List.mem_singleton] at isMember
            cases isMember with
            | inl isEarlier => exact inductionHypothesis.mp none_leads candidate isEarlier
            | inr isLast => exact isLast
      · intro missing
        have lastMissing : last = none := missing last (by simp)
        have earlierMissing : leader beats earlier = none :=
          inductionHypothesis.mpr fun candidate isMember => missing candidate (by simp [isMember])
        rw [lastMissing, earlierMissing]
        rfl

/-- Where being better is a strict order, nothing beats the leader. -/
theorem leader_unbeaten (irreflexive : ∀ item, beats item item = false)
    (transitive : ∀ first second third, beats first second = true → beats second third = true →
      beats first third = true) {candidates : List (Option γ)} {best : γ}
    (leads : leader beats candidates = some best) :
    ∀ candidate, some candidate ∈ candidates → beats candidate best = false := by
  induction candidates using List.reverseRecOn generalizing best with
  | nil => cases leads
  | append_singleton earlier last inductionHypothesis =>
      intro candidate isCandidate
      rw [leader_append] at leads
      rw [List.mem_append, List.mem_singleton] at isCandidate
      cases last with
      | none => exact inductionHypothesis leads candidate (isCandidate.resolve_right (by simp))
      | some newest =>
          cases before : leader beats earlier with
          | none =>
              rw [before] at leads
              cases leads
              rcases isCandidate with isEarlier | isLast
              · cases leader_eq_none.mp before _ isEarlier
              · cases isLast
                exact irreflexive _
          | some old =>
              rw [before] at leads
              simp only [leading] at leads
              split at leads <;> rename_i compared <;> cases leads
              · rcases isCandidate with isEarlier | isLast
                · -- What beat the new leader would have beaten the old one.
                  have notBetter := inductionHypothesis before candidate isEarlier
                  by_contra isBetter
                  rw [transitive _ _ _ (Bool.not_eq_false _ ▸ isBetter) compared] at notBetter
                  cases notBetter
                · cases isLast
                  exact irreflexive _
              · rcases isCandidate with isEarlier | isLast
                · exact inductionHypothesis before candidate isEarlier
                · cases isLast
                  exact Bool.eq_false_iff.mpr compared

/-- The leader took the lead when its turn came, by beating whoever led before it. -/
theorem leader_takes_lead {candidates : List (Option γ)} {best : γ}
    (leads : leader beats candidates = some best) :
    ∃ earlier later, candidates = earlier ++ some best :: later ∧
      ∀ old, leader beats earlier = some old → beats best old = true := by
  induction candidates using List.reverseRecOn generalizing best with
  | nil => cases leads
  | append_singleton before last inductionHypothesis =>
      rw [leader_append] at leads
      have tookBefore (ledBefore : leader beats before = some best) :
          ∃ earlier later, before ++ [last] = earlier ++ some best :: later ∧
            ∀ old, leader beats earlier = some old → beats best old = true := by
        obtain ⟨earlier, later, rfl, takes⟩ := inductionHypothesis ledBefore
        exact ⟨earlier, later ++ [last], by simp, takes⟩
      cases last with
      | none =>
          apply tookBefore
          rw [← leads]
          cases leader beats before <;> rfl
      | some candidate =>
          cases led : leader beats before with
          | none =>
              rw [led] at leads
              cases leads
              refine ⟨before, [], rfl, fun old isOld => ?_⟩
              rw [led] at isOld
              cases isOld
          | some old =>
              rw [led] at leads
              simp only [leading] at leads
              split at leads <;> rename_i compared <;> cases leads
              · refine ⟨before, [], rfl, fun other isOther => ?_⟩
                cases led.symm.trans isOther
                exact compared
              · exact tookBefore led

/-- Candidates that are changed without changing who beats whom have the changed leader. -/
theorem leader_map {δ : Type} {beatsChanged : δ → δ → Bool} (change : γ → δ)
    (alike : ∀ candidate best, beatsChanged (change candidate) (change best) = beats candidate best)
    (candidates : List (Option γ)) :
    leader beatsChanged (candidates.map (Option.map change)) =
      (leader beats candidates).map change := by
  induction candidates using List.reverseRecOn with
  | nil => rfl
  | append_singleton earlier last inductionHypothesis =>
      rw [List.map_append, List.map_singleton, leader_append, leader_append, inductionHypothesis]
      cases last with
      | none => cases leader beats earlier <;> rfl
      | some candidate =>
          cases leader beats earlier with
          | none => rfl
          | some best =>
              simp only [leading, Option.map_some, alike]
              split <;> rfl

/-- Where a key orders the candidates, the leader is the first one with the least key. -/
theorem leader_isFirstBest (key : γ → Int) {candidates : List (Option γ)}
    (keyed : ∀ candidate old, some candidate ∈ candidates → some old ∈ candidates →
      beats candidate old = decide (key candidate < key old))
    {best : γ} (leads : leader beats candidates = some best) :
    ∃ place, IsFirstBest key candidates best place := by
  induction candidates using List.reverseRecOn generalizing best with
  | nil => cases leads
  | append_singleton earlier last inductionHypothesis =>
      -- By induction on the last candidate: the leader so far stays unless the new one beats it.
      have earlierKeyed : ∀ candidate old, some candidate ∈ earlier → some old ∈ earlier →
          beats candidate old = decide (key candidate < key old) := by
        intro candidate old isCandidate isOld
        exact keyed candidate old (by simp [isCandidate]) (by simp [isOld])
      rw [leader_append] at leads
      cases before : leader beats earlier with
      | none =>
          have noneBefore := leader_eq_none.mp before
          rw [before] at leads
          cases last with
          | none => cases leads
          | some candidate =>
              cases leads
              refine ⟨_, IsFirstBest.of_better ?_⟩
              intro old isOld
              cases noneBefore _ isOld
      | some old =>
          obtain ⟨place, isBest⟩ := inductionHypothesis earlierKeyed before
          have isOld : some old ∈ earlier := leader_mem before
          rw [before] at leads
          cases last with
          | none =>
              cases leads
              exact ⟨place, isBest.append (by rintro _ ⟨⟩)⟩
          | some candidate =>
              have compared : beats candidate old = decide (key candidate < key old) :=
                keyed candidate old (by simp) (by simp [isOld])
              simp only [leading, compared, decide_eq_true_eq] at leads
              split at leads
              · rename_i better
                cases leads
                refine ⟨_, IsFirstBest.of_better ?_⟩
                intro other isOther
                obtain ⟨at_other, found⟩ := List.getElem?_of_mem isOther
                have oldLeast := isBest.least at_other other found
                omega
              · rename_i notBetter
                cases leads
                refine ⟨place, isBest.append ?_⟩
                rintro _ ⟨⟩
                omega

end Leader

section Search

variable {beats : γ → γ → Bool}

theorem firstBestFrom_eq (items : List γ) (place : Nat) (best : Nat × γ) :
    ((items.zipIdx place).map fun item => some (item.2, item.1)).foldl
        (leading fun candidate leader => beats candidate.2 leader.2) (some best) =
      some (firstBestFrom beats place best items) := by
  induction items generalizing place best with
  | nil => rfl
  | cons item rest inductionHypothesis =>
      have stepped : leading (fun candidate leader : Nat × γ => beats candidate.2 leader.2)
          (some best) (some (place, item)) =
          some (if beats item best.2 then (place, item) else best) := by
        simp only [leading]
        split <;> rfl
      rw [List.zipIdx_cons, List.map_cons, List.foldl_cons, stepped]
      exact inductionHypothesis _ _

/-- A search for the first best item finds the leader of the items with their places. -/
theorem firstBest?_eq_leader (items : List γ) :
    firstBest? beats items = leader (fun candidate best => beats candidate.2 best.2)
      (items.zipIdx.map fun item => some (item.2, item.1)) := by
  cases items with
  | nil => rfl
  | cons first rest => exact (firstBestFrom_eq rest 1 (0, first)).symm

theorem firstBest?_map {δ : Type} {beatsChanged : δ → δ → Bool} (change : γ → δ)
    (alike : ∀ candidate best, beatsChanged (change candidate) (change best) = beats candidate best)
    (items : List γ) :
    firstBest? beatsChanged (items.map change) =
      (firstBest? beats items).map (Prod.map id change) := by
  let placedBeats (candidate best : Nat × δ) : Bool := beatsChanged candidate.2 best.2
  have alikePlaced : ∀ candidate best : Nat × γ, placedBeats (Prod.map id change candidate)
      (Prod.map id change best) = beats candidate.2 best.2 :=
    fun candidate best => alike candidate.2 best.2
  have placed := leader_map (Prod.map id change) alikePlaced
    (items.zipIdx.map fun item => some (item.2, item.1))
  rw [firstBest?_eq_leader, firstBest?_eq_leader, ← placed, List.zipIdx_map, List.map_map,
    List.map_map]
  rfl

theorem firstBest?_eq_none {items : List γ} :
    firstBest? beats items = none ↔ items.length = 0 := by
  cases items with
  | nil => exact iff_of_true rfl rfl
  | cons first rest => exact iff_of_false nofun nofun

theorem firstBest?_isSome {items : List γ} (someItem : items ≠ []) :
    ∃ place best, firstBest? beats items = some (place, best) := by
  obtain ⟨first, rest, rfl⟩ := List.exists_cons_of_ne_nil someItem
  exact ⟨_, _, rfl⟩

theorem firstBest?_stands {items : List γ} {place : Nat} {best : γ}
    (found : firstBest? beats items = some (place, best)) : items[place]? = some best := by
  rw [firstBest?_eq_leader] at found
  obtain ⟨item, isItem, same⟩ := List.mem_map.mp (leader_mem found)
  obtain rfl : item = (best, place) :=
    Prod.ext (congrArg Prod.snd (Option.some.inj same)) (congrArg Prod.fst (Option.some.inj same))
  exact List.mem_zipIdx_iff_getElem?.mp isItem

/-- Where being better is a strict order, nothing beats what the search finds. -/
theorem firstBest?_unbeaten (irreflexive : ∀ item, beats item item = false)
    (transitive : ∀ first second third, beats first second = true → beats second third = true →
      beats first third = true) {items : List γ} {place : Nat} {best : γ}
    (found : firstBest? beats items = some (place, best)) :
    ∀ item ∈ items, beats item best = false := by
  intro item isItem
  rw [firstBest?_eq_leader] at found
  obtain ⟨other, stands⟩ := List.getElem?_of_mem isItem
  exact leader_unbeaten (fun item => irreflexive item.2)
    (fun first second third => transitive first.2 second.2 third.2) found (other, item)
    (List.mem_map.mpr ⟨(item, other), List.mem_zipIdx_iff_getElem?.mpr stands, rfl⟩)

theorem firstBest?_isFirstBest (key : γ → Int) {items : List γ}
    (keyed : ∀ candidate ∈ items, ∀ old ∈ items,
      beats candidate old = decide (key candidate < key old))
    {place : Nat} {best : γ} (found : firstBest? beats items = some (place, best)) :
    IsFirstBest key (items.map some) best place := by
  let placed : List (Option (Nat × γ)) := items.zipIdx.map fun item => some (item.2, item.1)
  have getElem?_placed (other : Nat) (candidate : Nat × γ) :
      placed[other]? = some (some candidate) ↔
        items[other]? = some candidate.2 ∧ candidate.1 = other := by
    simp only [placed, List.getElem?_map, List.getElem?_zipIdx]
    cases items[other]? with
    | none => simp
    | some item => simp [Prod.ext_iff, and_comm, eq_comm]
  have isItem : ∀ candidate : Nat × γ, some candidate ∈ placed → candidate.2 ∈ items := by
    intro candidate isMember
    obtain ⟨other, stands⟩ := List.getElem?_of_mem isMember
    exact List.mem_of_getElem? ((getElem?_placed other candidate).mp stands).1
  rw [firstBest?_eq_leader] at found
  obtain ⟨stood, isBest⟩ := leader_isFirstBest (fun candidate : Nat × γ => key candidate.2)
    (fun candidate old isCandidate isOld =>
      keyed _ (isItem candidate isCandidate) _ (isItem old isOld)) found
  obtain ⟨stands, rfl⟩ := (getElem?_placed stood (place, best)).mp isBest.stands
  have present (other : Nat) (candidate : γ)
      (isThere : (items.map some)[other]? = some (some candidate)) :
      placed[other]? = some (some (other, candidate)) := by
    rw [List.getElem?_map, Option.map_eq_some_iff] at isThere
    obtain ⟨item, standsThere, same⟩ := isThere
    exact (getElem?_placed other (other, candidate)).mpr ⟨Option.some.inj same ▸ standsThere, rfl⟩
  constructor
  · rw [List.getElem?_map, stands, Option.map_some]
  · intro other candidate isThere
    exact isBest.least other (other, candidate) (present other candidate isThere)
  · intro other candidate isBefore isThere
    exact isBest.first other (other, candidate) isBefore (present other candidate isThere)

end Search

end FieldSurvey
