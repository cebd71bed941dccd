import FieldSurvey.Proofs.Group.Exchange
import FieldSurvey.Proofs.Outcome

/-!
Programs whose end is decided by what each process does by itself: once every process has taken its
own step, the exchanges that follow cannot fail. Such a group ends alike exactly if the own steps do.
-/

namespace FieldSurvey

namespace ProcessGroup

open Collective

/-- A program whose end is decided by a step that each process takes by itself. If all of these
succeed, all processes end in one way, and can fail only for missing data; otherwise those whose own
step failed end with its failure and all others are left waiting. -/
structure DecidedByOwnSteps {α β δ ω : Type} (kind : GroupKind)
    (program : ProcessGroup → ω → Collective α β) (own : ProcessGroup → ω → Except Error δ)
    (shares : List ω) : Prop where
  agree : (∀ seat ∈ seats kind shares, ∃ found, own seat.1 seat.2 = .ok found) →
    ∃ result, together kind program shares = shares.map (fun _ => result) ∧
      ∀ cause, result = .error cause → cause.category = .missingData
  strand : (∃ seat ∈ seats kind shares, ∃ cause, own seat.1 seat.2 = .error cause) →
    together kind program shares =
      (seats kind shares).map fun seat => leftWaiting (own seat.1 seat.2)

variable {α β δ ω : Type} {kind : GroupKind} {shares : List ω}

theorem DecidedByOwnSteps.forget {program : ProcessGroup → ω → Collective α β}
    {own : ProcessGroup → ω → Except Error δ} (decided : DecidedByOwnSteps kind program own shares) :
    DecidedByOwnSteps kind program (fun group share => own group share >>= fun _ => pure ()) shares := by
  constructor
  · intro succeeded
    apply decided.agree
    intro seat isSeat
    obtain ⟨_, passed⟩ := succeeded seat isSeat
    obtain ⟨found, finds, _⟩ := bind_eq_ok.mp passed
    exact ⟨found, finds⟩
  · rintro ⟨seat, isSeat, cause, fails⟩
    have failing : own seat.1 seat.2 = .error cause := by
      cases found : own seat.1 seat.2 with
      | error other =>
          rw [found] at fails
          exact congrArg Except.error (Except.error.inj fails)
      | ok result =>
          rw [found] at fails
          cases fails
    rw [decided.strand ⟨seat, isSeat, cause, failing⟩]
    apply List.map_congr_left
    intro other _
    cases own other.1 other.2 <;> rfl

/-- Where all own steps succeed or those that fail leave all others waiting, a group ends alike if and
only if its own steps do. -/
theorem endAlike_iff_ownSteps {ended : List (Except Error β)}
    {own : ProcessGroup × ω → Except Error Unit}
    (agree : (∀ seat ∈ seats kind shares, own seat = .ok ()) →
      ∃ result, ended = shares.map (fun _ => result) ∧
        ∀ cause, result = .error cause → cause.category ≠ .deadlock)
    (strand : (∃ seat ∈ seats kind shares, ∃ cause, own seat = .error cause) →
      ended = (seats kind shares).map fun seat => leftWaiting (own seat)) :
    EndAlike ended ↔ EndAlike ((seats kind shares).map own) := by
  by_cases failed : ∃ seat ∈ seats kind shares, ∃ cause, own seat = .error cause
  · rw [strand failed]
    have someFails : ∃ outcome ∈ (seats kind shares).map own, ∃ cause, outcome = .error cause := by
      obtain ⟨seat, isSeat, cause, fails⟩ := failed
      exact ⟨_, List.mem_map_of_mem isSeat, cause, fails⟩
    rw [← endAlike_leftWaiting_iff (β := β) someFails, List.map_map]
    rfl
  · have succeeded : ∀ seat ∈ seats kind shares, own seat = .ok () := by
      intro seat isSeat
      cases outcome : own seat with
      | error cause => exact absurd ⟨seat, isSeat, cause, outcome⟩ failed
      | ok result => rfl
    obtain ⟨result, same, noDeadlock⟩ := agree succeeded
    constructor
    · intro _
      refine .inl ⟨(), ?_⟩
      intro outcome isOutcome
      obtain ⟨seat, isSeat, rfl⟩ := List.mem_map.mp isOutcome
      exact succeeded seat isSeat
    · intro _
      rw [same]
      refine endAlike_of_same result ?_ noDeadlock
      intro outcome isOutcome
      obtain ⟨_, _, rfl⟩ := List.mem_map.mp isOutcome
      rfl

/-- How a group ends is decided by its own steps: alike if and only if these do. -/
theorem DecidedByOwnSteps.endAlike_iff {program : ProcessGroup → ω → Collective α β}
    {own : ProcessGroup → ω → Except Error Unit} (decided : DecidedByOwnSteps kind program own shares) :
    EndAlike (together kind program shares) ↔ EndAlike ((seats kind shares).map fun seat => own seat.1 seat.2) := by
  refine endAlike_iff_ownSteps ?_ decided.strand
  intro succeeded
  obtain ⟨result, same, onlyMissing⟩ := decided.agree fun seat isSeat =>
    ⟨(), succeeded seat isSeat⟩
  refine ⟨result, same, ?_⟩
  intro cause fails
  rw [onlyMissing cause fails]
  decide

/-- A program that is an own step, followed by exchanges that lead all processes to one end. -/
theorem decided_of_split {program : ProcessGroup → ω → Collective α β} {own : ProcessGroup → ω → Except Error δ}
    (next : ProcessGroup × ω → δ → Collective α β)
    (splits : ∀ seat ∈ seats kind shares,
      program seat.1 seat.2 = Collective.ofExcept (own seat.1 seat.2) >>= next seat)
    (waits : 1 < shares.length → ∀ seat ∈ seats kind shares, ∀ found, (next seat found).Waits)
    (ends : ∀ found : ProcessGroup × ω → δ,
      (∀ seat ∈ seats kind shares, own seat.1 seat.2 = .ok (found seat)) →
      ∃ result, outcomes ((seats kind shares).map fun seat => next seat (found seat)) =
          shares.map (fun _ => result) ∧
        ∀ cause, result = .error cause → cause.category = .missingData) :
    DecidedByOwnSteps kind program own shares := by
  have split : together kind program shares =
      outcomes ((seats kind shares).map fun seat =>
        Collective.ofExcept (own seat.1 seat.2) >>= next seat) := by
    unfold together
    rw [List.map_congr_left splits]
  constructor
  · intro succeeded
    cases noSeats : seats kind shares with
    | nil =>
        have noShares : shares = [] := by
          rw [← seats_shares kind shares, noSeats]
          rfl
        rw [noShares]
        exact ⟨.error (.fieldNowhere ""), rfl, by rintro _ ⟨⟩; rfl⟩
    | cons first rest =>
        have isFirst : first ∈ seats kind shares := by
          rw [noSeats]
          exact List.mem_cons_self
        obtain ⟨some, _⟩ := succeeded first isFirst
        let found : ProcessGroup × ω → δ := fun seat => (own seat.1 seat.2).toOption.getD some
        have finds : ∀ seat ∈ seats kind shares, own seat.1 seat.2 = .ok (found seat) := by
          intro seat isSeat
          obtain ⟨result, succeeds⟩ := succeeded seat isSeat
          simp only [found, succeeds, Except.toOption, Option.getD_some]
        obtain ⟨result, same, onlyMissing⟩ := ends found finds
        refine ⟨result, ?_, onlyMissing⟩
        rw [split, outcomes_own_steps _ _ found _ finds, same]
  · rintro ⟨seat, isSeat, cause, fails⟩
    rw [split, outcomes_failed_step _ _ _ (by simpa using waits) ⟨seat, isSeat, cause, fails⟩]

/-- Processes that all end with one given result once each has taken a step of its own. If some of
these steps fail, their processes end with the failures and all others are left waiting. -/
structure EndsIn (kind : GroupKind) (shares : List ω) (process : ProcessGroup × ω → Collective α β)
    (own : ProcessGroup × ω → Except Error Unit) (result : Except Error β) : Prop where
  agree : (∀ seat ∈ seats kind shares, own seat = .ok ()) →
    outcomes ((seats kind shares).map process) = shares.map fun _ => result
  strand : (∃ seat ∈ seats kind shares, ∃ cause, own seat = .error cause) →
    outcomes ((seats kind shares).map process) =
      (seats kind shares).map fun seat => leftWaiting (own seat)

namespace EndsIn

variable {process other : ProcessGroup × ω → Collective α β} {own : ProcessGroup × ω → Except Error Unit}
  {result : Except Error β}

theorem of_outcomes
    (same : outcomes ((seats kind shares).map process) = outcomes ((seats kind shares).map other))
    (ends : EndsIn kind shares other own result) : EndsIn kind shares process own result := by
  constructor
  · intro succeeded
    rw [same]
    exact ends.agree succeeded
  · intro failed
    rw [same]
    exact ends.strand failed

theorem of_steps {steps : ProcessGroup × ω → Except Error Unit}
    (same : ∀ seat ∈ seats kind shares, own seat = steps seat)
    (ends : EndsIn kind shares process steps result) : EndsIn kind shares process own result := by
  constructor
  · intro succeeded
    exact ends.agree fun seat isSeat => (same seat isSeat).symm.trans (succeeded seat isSeat)
  · rintro ⟨seat, isSeat, cause, fails⟩
    rw [ends.strand ⟨seat, isSeat, cause, (same seat isSeat).symm.trans fails⟩]
    exact List.map_congr_left fun seat isSeat => congrArg leftWaiting (same seat isSeat).symm

theorem of_ended (ended : ∀ seat, (process seat).standing = .ended result) :
    EndsIn kind shares process (fun _ => .ok ()) result := by
  have alike : outcomes ((seats kind shares).map process) =
      outcomes ((seats kind shares).map fun _ => Collective.finish result) :=
    outcomes_congr _ _ _ ended
  constructor
  · intro _
    rw [alike, outcomes_finish]
  · rintro ⟨_, _, _, ⟨⟩⟩

/-- A step of its own that each process takes before all that follows. What it does later by itself it
only does once nobody has failed. -/
theorem after_step [Inhabited δ] {first : ProcessGroup × ω → Except Error δ}
    {next : ProcessGroup × ω → δ → Collective α β} {later : ProcessGroup × ω → δ → Except Error Unit}
    (waits : 1 < shares.length → ∀ seat ∈ seats kind shares, ∀ found, (next seat found).Waits)
    (idle : (∃ seat ∈ seats kind shares, ∃ cause, first seat = .error cause) →
      ∀ seat found, later seat found = .ok ())
    (ends : ∀ found : ProcessGroup × ω → δ,
      (∀ seat ∈ seats kind shares, first seat = .ok (found seat)) →
      EndsIn kind shares (fun seat => next seat (found seat)) (fun seat => later seat (found seat))
        result) :
    EndsIn kind shares (fun seat => Collective.ofExcept (first seat) >>= next seat)
      (fun seat => first seat >>= later seat) result := by
  by_cases failed : ∃ seat ∈ seats kind shares, ∃ cause, first seat = .error cause
  · have onlyFirst (seat : ProcessGroup × ω) :
        (first seat >>= later seat) = first seat >>= fun _ => .ok () := by
      cases first seat with
      | error cause => rfl
      | ok found => exact idle failed seat found
    simp only [onlyFirst]
    constructor
    · intro succeeded
      obtain ⟨seat, isSeat, cause, fails⟩ := failed
      have passed := succeeded seat isSeat
      rw [fails] at passed
      cases passed
    · intro _
      rw [outcomes_failed_step _ _ _ (by simpa using waits) failed]
      apply List.map_congr_left
      intro seat _
      cases first seat <;> rfl
  · let found : ProcessGroup × ω → δ := fun seat => (first seat).toOption.getD default
    have finds : ∀ seat ∈ seats kind shares, first seat = .ok (found seat) := by
      intro seat isSeat
      cases outcome : first seat with
      | error cause => exact absurd ⟨seat, isSeat, cause, outcome⟩ failed
      | ok result => simp only [found, outcome, Except.toOption, Option.getD_some]
    have steps := outcomes_own_steps _ first found next finds
    have sameOwn : ∀ seat ∈ seats kind shares,
        (first seat >>= later seat) = later seat (found seat) := by
      intro seat isSeat
      rw [finds seat isSeat, ok_bind]
    constructor
    · intro succeeded
      rw [steps]
      apply (ends found finds).agree
      intro seat isSeat
      rw [← sameOwn seat isSeat]
      exact succeeded seat isSeat
    · rintro ⟨seat, isSeat, cause, fails⟩
      rw [sameOwn seat isSeat] at fails
      rw [steps, (ends found finds).strand ⟨seat, isSeat, cause, fails⟩]
      apply List.map_congr_left
      intro other isOther
      rw [sameOwn other isOther]

end EndsIn

theorem rank?_of_mem_seats (connects : kind.Connects shares.length) {seat : ProcessGroup × ω}
    (isSeat : seat ∈ seats kind shares) : seat.1.rank? = .ok seat.1.rank := by
  unfold rank?
  rw [(of_mem_seats isSeat).1]
  cases kind with
  | unspecified => exact connects.elim
  | _ => rfl

theorem map_seats_share (kind : GroupKind) {γ : Type} (look : ω → γ) (shares : List ω) :
    (seats kind shares).map (fun seat => look seat.2) = shares.map look := by
  conv => right; rw [← seats_shares kind shares, List.map_map]
  rfl

end ProcessGroup

end FieldSurvey
