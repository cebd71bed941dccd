import FieldSurvey.Proofs.Group.Choosing
import FieldSurvey.Proofs.Group.Shares

/-!
Two ways to exchange: gathering all contributions and reducing them locally, or letting a
message-passing library reduce them. A program does not depend on which it is if the processes of a
group end alike under both. Each operation of a group keeps this property of what follows it, and so
does a step that a process takes by itself, even where it fails and leaves others waiting.
-/

namespace FieldSurvey

namespace ProcessGroup

open Collective

variable {α β δ ω : Type} {shares : List ω}

/-- However the processes of a connected group exchange, they end in the same ways. -/
def ExchangeIndependent (shares : List ω) (program : ProcessGroup → ω → Collective α β) : Prop :=
  together .lockstep program shares = together .messagePassing program shares

/-- A process that gets no further exchange ends in the same way under both. -/
def StallsAlike (program : ProcessGroup → Collective α β) : Prop :=
  ∀ rank size, (program ⟨.lockstep, rank, size⟩).stalled =
    (program ⟨.messagePassing, rank, size⟩).stalled

/-- What is read off each place in a group is the same for both kinds if it is at each rank. -/
theorem map_seats_alike {γ : Type} {look : ProcessGroup × ω → γ}
    (same : ∀ rank size share,
      look (⟨.lockstep, rank, size⟩, share) = look (⟨.messagePassing, rank, size⟩, share))
    (shares : List ω) :
    (seats .lockstep shares).map look = (seats .messagePassing shares).map look := by
  apply List.ext_getElem
  · simp
  · intro rank inLockstep inPassing
    rw [List.getElem_map, List.getElem_map, getElem_seats, getElem_seats]
    exact same rank shares.length _

namespace ExchangeIndependent

/-- An operation that both kinds turn into the same continuation, if there is anybody to take part. -/
theorem of_reduced {program next : ProcessGroup → ω → Collective α β}
    (reduces : ∀ kind : GroupKind, kind.Connects shares.length →
      together kind program shares = together kind next shares)
    (rest : ExchangeIndependent shares next) : ExchangeIndependent shares program := by
  cases shares with
  | nil => rfl
  | cons first others =>
      have someProcess : 0 < (first :: others).length := Nat.zero_lt_succ _
      unfold ExchangeIndependent at rest ⊢
      rw [reduces .lockstep someProcess, reduces .messagePassing someProcess]
      exact rest

theorem of_groupless (program : ω → Collective α β) :
    ExchangeIndependent shares fun _ share => program share := by
  unfold ExchangeIndependent together
  rw [map_seats_alike fun _ _ _ => rfl]

theorem of_finish (outcome : Except Error β) :
    ExchangeIndependent shares fun _ _ => (Collective.finish outcome : Collective α β) :=
  of_groupless fun _ => Collective.finish outcome

/-- A program may be replaced by one that is the same for both kinds. -/
theorem congr {program other : ProcessGroup → ω → Collective α β}
    (same : ∀ rank size share,
      program ⟨.lockstep, rank, size⟩ share = other ⟨.lockstep, rank, size⟩ share ∧
        program ⟨.messagePassing, rank, size⟩ share = other ⟨.messagePassing, rank, size⟩ share)
    (independent : ExchangeIndependent shares other) : ExchangeIndependent shares program := by
  have sameTogether (kind : GroupKind)
      (sameAtKind : ∀ rank size share, program ⟨kind, rank, size⟩ share = other ⟨kind, rank, size⟩ share) :
      together kind program shares = together kind other shares := by
    unfold together
    congr 1
    apply List.map_congr_left
    rintro ⟨⟨seatKind, rank, size⟩, share⟩ isSeat
    obtain ⟨rfl, _, _⟩ := of_mem_seats isSeat
    exact sameAtKind rank size share
  unfold ExchangeIndependent at independent ⊢
  rw [sameTogether .lockstep fun rank size share => (same rank size share).1,
    sameTogether .messagePassing fun rank size share => (same rank size share).2]
  exact independent

section OwnSteps

/-- A step whose outcome is the same on all processes. -/
theorem after_common_step (outcome : Except Error δ) {next : ProcessGroup → ω → δ → Collective α β}
    (rest : ∀ found, outcome = .ok found →
      ExchangeIndependent shares fun group share => next group share found) :
    ExchangeIndependent shares fun group share => Collective.ofExcept outcome >>= next group share := by
  cases outcome with
  | error cause => exact of_finish (.error cause)
  | ok found => exact rest found rfl

/-- A step that each process takes by itself. Where one fails, the others end as they do without any
further exchange. -/
theorem after_own_step (own : ω → Except Error δ) {next : ProcessGroup → ω → δ → Collective α β}
    (stalls : ∀ share found, StallsAlike fun group => next group share found)
    (rest : ∀ found : ω → δ, (∀ share ∈ shares, own share = .ok (found share)) →
      ExchangeIndependent shares fun group share => next group share (found share)) :
    ExchangeIndependent shares fun group share =>
      Collective.ofExcept (own share) >>= next group share := by
  by_cases failed : ∃ share ∈ shares, ∃ cause, own share = .error cause
  · obtain ⟨failing, isShare, cause, fails⟩ := failed
    have stalled (kind : GroupKind) :
        together kind (fun group share => Collective.ofExcept (own share) >>= next group share) shares =
          (seats kind shares).map fun seat =>
            (Collective.ofExcept (own seat.2) >>= next seat.1 seat.2).stalled := by
      obtain ⟨seat, isSeat, isFailing⟩ := exists_seat kind isShare
      unfold together
      rw [outcomes_of_ended, List.map_map]
      · rfl
      · refine ⟨_, List.mem_map_of_mem isSeat, .error cause, ?_⟩
        simp only [isFailing, fails]
        rfl
    unfold ExchangeIndependent
    rw [stalled .lockstep, stalled .messagePassing]
    apply map_seats_alike
    intro rank size share
    cases outcome : own share with
    | error reason => rfl
    | ok found => exact stalls share found rank size
  · have succeeds : ∀ share ∈ shares, ∃ found, own share = .ok found := by
      intro share isShare
      cases outcome : own share with
      | error cause => exact absurd ⟨share, isShare, cause, outcome⟩ failed
      | ok found => exact ⟨found, rfl⟩
    cases isEmpty : shares with
    | nil => rfl
    | cons first others =>
        rw [← isEmpty]
        obtain ⟨someFound, _⟩ := succeeds first (by rw [isEmpty]; exact List.mem_cons_self)
        have someResult : Nonempty δ := ⟨someFound⟩
        obtain ⟨found, finds⟩ := exists_results succeeds
        exact of_reduced (fun kind _ => together_own_step own found finds next) (rest found finds)

theorem after_log (level : Int) (source : LogSource) (text : ProcessGroup → ω → String)
    {next : ProcessGroup → ω → Collective α β} (rest : ExchangeIndependent shares next) :
    ExchangeIndependent shares fun group share =>
      Collective.log level source (text group share) >>= fun _ => next group share :=
  of_reduced (fun _ _ => together_log level source text next) rest

theorem after_rank {next : ProcessGroup → ω → Nat → Collective α β}
    (rest : ExchangeIndependent shares fun group share => next group share group.rank) :
    ExchangeIndependent shares fun group share =>
      Collective.ofExcept group.rank? >>= next group share :=
  of_reduced (fun _ connects => together_rank connects next) rest

/-- Programs that all end in one way once each process has taken a step of its own. -/
theorem of_ends {program : ProcessGroup → ω → Collective α β}
    {own : ProcessGroup × ω → Except Error Unit} {result : GroupKind → Except Error β}
    (ends : ∀ kind : GroupKind, kind.Connects shares.length →
      EndsIn kind shares (fun seat => program seat.1 seat.2) own (result kind))
    (sameSteps : ∀ rank size share,
      own (⟨.lockstep, rank, size⟩, share) = own (⟨.messagePassing, rank, size⟩, share))
    (sameResult : result .lockstep = result .messagePassing) :
    ExchangeIndependent shares program := by
  cases isEmpty : shares with
  | nil => rfl
  | cons first others =>
      rw [← isEmpty]
      have someProcess : 0 < shares.length := by
        rw [isEmpty]
        exact Nat.zero_lt_succ _
      have inLockstep := ends .lockstep someProcess
      have inPassing := ends .messagePassing someProcess
      by_cases failed : ∃ seat ∈ seats .lockstep shares, ∃ cause, own seat = .error cause
      · obtain ⟨seat, isSeat, cause, fails⟩ := failed
        have failsToo : ∃ seat ∈ seats .messagePassing shares, ∃ cause, own seat = .error cause := by
          have isOutcome := List.mem_map_of_mem (f := own) isSeat
          rw [map_seats_alike sameSteps, fails] at isOutcome
          obtain ⟨other, isOther, failsThere⟩ := List.mem_map.mp isOutcome
          exact ⟨other, isOther, cause, failsThere⟩
        refine (inLockstep.strand ⟨seat, isSeat, cause, fails⟩).trans
          (Eq.trans ?_ (inPassing.strand failsToo).symm)
        exact map_seats_alike (fun rank size share =>
          congrArg leftWaiting (sameSteps rank size share)) shares
      · have succeeds : ∀ outcome ∈ (seats .lockstep shares).map own, outcome = .ok () := by
          intro outcome isOutcome
          obtain ⟨seat, isSeat, rfl⟩ := List.mem_map.mp isOutcome
          cases taken : own seat with
          | ok result => rfl
          | error cause => exact absurd ⟨seat, isSeat, cause, taken⟩ failed
        have inLockstepEnds := inLockstep.agree fun seat isSeat =>
          succeeds _ (List.mem_map_of_mem isSeat)
        have inPassingEnds := inPassing.agree fun seat isSeat => by
          apply succeeds
          rw [map_seats_alike sameSteps]
          exact List.mem_map_of_mem isSeat
        rw [← sameResult] at inPassingEnds
        exact inLockstepEnds.trans inPassingEnds.symm

end OwnSteps

section Operations

variable [Scalar α]

theorem after_reduceReal {reduction : Reduction} {join : α → α → α}
    (joins : reduction.onReals? = some join) (number : ω → α)
    {next : ProcessGroup → ω → α → Collective α β}
    (rest : ∀ total, ExchangeIndependent shares fun group share => next group share total) :
    ExchangeIndependent shares fun group share =>
      group.reduceReal reduction (number share) >>= next group share :=
  of_reduced (fun _ connects => together_reduceReal connects joins number next) (rest _)

theorem after_sumWhole (number : ω → Int) {next : ProcessGroup → ω → Int → Collective α β}
    (rest : ∀ total, ExchangeIndependent shares fun group share => next group share total) :
    ExchangeIndependent shares fun group share =>
      group.sumWhole (number share) >>= next group share :=
  of_reduced (fun _ connects => together_sumWhole connects number next) (rest _)

theorem after_sumCounts {size : Nat} (counts : ω → List Int)
    (even : ∀ share ∈ shares, (counts share).length = size)
    {next : ProcessGroup → ω → List Int → Collective α β}
    (rest : ∀ totals, ExchangeIndependent shares fun group share => next group share totals) :
    ExchangeIndependent shares fun group share =>
      group.sumCounts (counts share) >>= next group share :=
  of_reduced (fun _ connects => together_sumCounts connects counts even next) (rest _)

theorem after_selectExtreme (extreme : Extreme) (submission : ω → α × Bool)
    {next : ProcessGroup → ω → Option (α × Nat) → Collective α β}
    (rest : ∀ winner, ExchangeIndependent shares fun group share => next group share winner) :
    ExchangeIndependent shares fun group share =>
      group.selectExtreme extreme (submission share).1 (submission share).2 >>=
        next group share := by
  apply of_reduced _ (rest (select extreme (shares.map submission)))
  intro kind connects
  have selected := selectExtreme_all connects extreme (fun seat => submission seat.2)
    fun seat => next seat.1 seat.2
  rw [map_seats_share kind submission] at selected
  exact selected

omit [Scalar α] in
/-- What one process tells all others, if both kinds hand it in and read it in the same way. -/
theorem after_broadcast (root : Nat) (offer : ω → Except Error (Payload α))
    (read : Payload α → Except Error δ) {next : ProcessGroup → ω → δ → Collective α β}
    (rest : ∀ told, ExchangeIndependent shares fun group share => next group share told) :
    ExchangeIndependent shares fun group share =>
      group.broadcast root (offer share) read >>= next group share := by
  cases isEmpty : shares with
  | nil => rfl
  | cons first others =>
      rw [← isEmpty]
      have someProcess : 0 < shares.length := by
        rw [isEmpty]
        exact Nat.zero_lt_succ _
      by_cases inGroup : root < shares.length
      · let teller (kind : GroupKind) : ProcessGroup × ω := (⟨kind, root, shares.length⟩, shares[root])
        have isSeat (kind : GroupKind) : teller kind ∈ seats kind shares := by
          have inSeats : root < (seats kind shares).length := by
            rw [length_seats]
            exact inGroup
          exact List.mem_of_getElem (getElem_seats root inSeats)
        cases offered : offer shares[root] with
        | ok payload =>
            apply of_reduced _ (after_common_step (read payload) fun told _ => rest told)
            intro kind connects
            exact broadcast_all connects (fun seat => offer seat.2) read (isSeat kind) offered
              fun seat => next seat.1 seat.2
        | error cause =>
            have stranded (kind : GroupKind) (connects : kind.Connects shares.length) :=
              broadcast_failed connects (fun seat => offer seat.2) read (isSeat kind) offered
                fun seat => next seat.1 seat.2
            exact (stranded .lockstep someProcess).trans
              ((map_seats_alike (fun _ _ _ => rfl) shares).trans
                (stranded .messagePassing someProcess).symm)
      · have outside : ¬ ((0 : Int) ≤ root ∧ (root : Int) < shares.length) := by omega
        apply of_reduced _ (of_finish (.error (.rootOutside (toString (root : Int)) shares.length)))
        intro kind connects
        unfold together
        congr 1
        apply List.map_congr_left
        intro seat isSeat
        have refused := broadcast_outside connects isSeat outside (offer seat.2) read
        simp only [refused]
        rfl

omit [Scalar α] in
/-- Where a group is connected by exchanges, a place is told as a payload that both kinds prepare in
the same way. -/
theorem after_broadcastPlace (root : Nat)
    (content : ω → Except Error (Option (Position α × Int)))
    {next : ProcessGroup → ω → Position α × Int → Collective α β}
    (rest : ∀ told, ExchangeIndependent shares fun group share => next group share told) :
    ExchangeIndependent shares fun group share =>
      group.broadcastPlace (content share) root >>= next group share := by
  apply congr _ (after_broadcast root (fun share => preparedPlace .lockstep (content share))
    (expected Payload.place?) rest)
  intro rank size share
  exact ⟨rfl, rfl⟩

end Operations

end ExchangeIndependent

end ProcessGroup

end FieldSurvey
