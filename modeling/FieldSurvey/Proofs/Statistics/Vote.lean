import FieldSurvey.Proofs.Group.Choosing
import FieldSurvey.Proofs.Group.Deciding
import FieldSurvey.Proofs.Packed.Limits
import FieldSurvey.Statistics.Extremum

/-!
How a group finds an extreme entry: each process looks for the first best among its own domains, all
vote for the best of these, and the process that holds it tells the others where it lies. That
process resolves the place by itself between two exchanges, so it may fail while all others already
wait for what it tells.
-/

namespace FieldSurvey

namespace OwnExtremum

variable {α : Type} [Scalar α]

theorem foldlM_improve (extreme : Extreme) (found : FieldPart α → Option (α × Nat))
    (parts : List (FieldPart α))
    (scans : ∀ part ∈ parts, ∃ entries, part.entries = .ok entries ∧
      entries.extremum extreme = .ok (found part))
    (best : Option (OwnExtremum α)) :
    parts.foldlM (fun best part => do improve extreme best part (← part.entries)) best =
      .ok ((parts.map fun part => (found part).map fun item => ⟨item.1, item.2, part⟩).foldl
        (leading fun candidate leader => extreme.beats candidate.value leader.value) best) := by
  induction parts generalizing best with
  | nil => rfl
  | cons part rest inductionHypothesis =>
      obtain ⟨entries, hasEntries, scanned⟩ := scans part List.mem_cons_self
      have improved : improve extreme best part entries =
          .ok (leading (fun candidate leader => extreme.beats candidate.value leader.value) best
            ((found part).map fun item => ⟨item.1, item.2, part⟩)) := by
        unfold improve
        rw [scanned, ok_bind]
        cases found part with
        | none => cases best <;> rfl
        | some item =>
            cases best with
            | none => rfl
            | some leader =>
                simp only [Option.map_some, leading]
                split <;> rfl
      rw [List.foldlM_cons, hasEntries, ok_bind, improved, ok_bind]
      exact inductionHypothesis (fun other isLater => scans other (List.mem_cons_of_mem _ isLater)) _

def submission (own : Option (OwnExtremum α)) : α × Bool :=
  ((own.map value).getD Scalar.undefined, own.isSome)

/-- What a process can tell about the place of its own extreme entry. -/
def told (own : Option (OwnExtremum α)) : Except Error (Option (Position α × Int)) :=
  match own with
  | some found => some <$> found.place
  | none => .ok none

omit [Scalar α] in
/-- A place that can be looked up and whose number fits 64 bits can be told. -/
theorem placeOffer_of_place {group : ProcessGroup} {found : OwnExtremum α}
    {position : Position α} {number : Int} (located : found.part.locate found.index = .ok position)
    (numbered : found.part.domainId = .ok number) (aboveLeast : -(2 ^ 63) ≤ number)
    (belowGreatest : number < 2 ^ 64) :
    group.placeOffer (told (some found)) group.rank = .ok (.place position number) := by
  obtain ⟨packed, packs⟩ := (packWhole_eq_ok number).mpr ⟨aboveLeast, belowGreatest⟩
  have toldPlace : told (some found) = .ok (some (position, number)) := by
    unfold told OwnExtremum.place
    simp only [located, numbered]
    rfl
  unfold ProcessGroup.placeOffer
  rw [if_pos rfl, toldPlace, ok_bind]
  simp only [packs]
  split <;> rfl

end OwnExtremum

section Election

variable {α : Type} [Scalar α]

open OwnExtremum

/-- What becomes of a vote: somebody is elected and tells where its entry lies, or there is none. -/
def ProcessGroup.afterElection (name : String) (group : ProcessGroup)
    (own : Option (OwnExtremum α)) : Option (α × Nat) → Collective α (FieldExtremum α)
  | none => .fail (.noDefinedValues name)
  | some (value, winner) => do
      let (position, domain) ← group.broadcastPlace (told own) winner
      return ⟨value, winner, domain, position⟩

theorem FieldShare.extremum_eq (extreme : Extreme) (group : ProcessGroup) (share : FieldShare α) :
    share.extremum extreme group =
      Collective.ofExcept (share.ownExtremum extreme) >>= fun own =>
        group.selectExtreme extreme (submission own).1 (submission own).2 >>=
          group.afterElection share.name own := by
  unfold FieldShare.extremum
  simp only [Collective.liftM_eq_ofExcept]
  rfl

end Election

namespace ProcessGroup

open Collective OwnExtremum

variable {ω : Type} {kind : GroupKind} {shares : List ω} (shareOf : ω → FieldShare Float)
  {name : String} (extreme : Extreme)

def extremumText (label : String) (value : Float) (winner : Nat) (domain : Int) : String :=
  let ending := extreme.name
  let shown := generalText 6 value
  s!"{ending} of '{label}' = {shown} on rank {winner} (domain {domain})"

def afterVote (name : String) (group : ProcessGroup) (own : Option (OwnExtremum Float))
    (label : String) : Option (Float × Nat) → Collective Float (FieldExtremum Float)
  | none => .fail (.noDefinedValues name)
  | some (value, winner) => do
      let (position, domain) ← group.broadcastPlace (told own) winner
      .log LogLevel.debug .statistics (extremumText extreme label value winner domain)
      return ⟨value, winner, domain, position⟩

theorem loggedExtremum_eq (named : ∀ share, (shareOf share).name = name)
    (seat : ProcessGroup × ω) :
    (shareOf seat.2).loggedExtremum extreme seat.1 =
      Collective.ofExcept ((shareOf seat.2).ownExtremum extreme) >>= fun own =>
        seat.1.selectExtreme extreme (submission own).1 (submission own).2 >>=
          afterVote extreme name seat.1 own (shareOf seat.2).label := by
  unfold FieldShare.loggedExtremum
  simp only [FieldShare.extremum_eq, bind_bind, named]
  congr 1
  funext own
  congr 1
  funext winner
  cases winner with
  | none => rfl
  | some chosen =>
      simp only [afterElection, bind_bind, afterVote]
      rfl

theorem extremum_none (connects : kind.Connects shares.length)
    (named : ∀ share, (shareOf share).name = name)
    (own : ProcessGroup × ω → Option (OwnExtremum Float))
    (scans : ∀ seat ∈ seats kind shares,
      (shareOf seat.2).ownExtremum extreme = .ok (own seat))
    (chosen : select extreme ((seats kind shares).map fun seat => submission (own seat)) = none) :
    together kind (fun group share => (shareOf share).loggedExtremum extreme group) shares =
      shares.map fun _ => .error (.noDefinedValues name) := by
  unfold together
  simp only [loggedExtremum_eq shareOf extreme named]
  rw [outcomes_own_steps _ _ own _ scans,
    selectExtreme_all connects extreme (fun seat => submission (own seat)), chosen]
  exact outcomes_finish _

theorem extremum_told (connects : kind.Connects shares.length)
    (named : ∀ share, (shareOf share).name = name)
    (own : ProcessGroup × ω → Option (OwnExtremum Float))
    (scans : ∀ seat ∈ seats kind shares,
      (shareOf seat.2).ownExtremum extreme = .ok (own seat))
    {teller : ProcessGroup × ω} (isSeat : teller ∈ seats kind shares) {value : Float}
    (chosen : select extreme ((seats kind shares).map fun seat => submission (own seat)) =
      some (value, teller.1.rank))
    {position : Position Float} {domain : Int}
    (tells : teller.1.placeOffer (told (own teller)) teller.1.rank = .ok (.place position domain)) :
    together kind (fun group share => (shareOf share).loggedExtremum extreme group) shares =
      shares.map fun _ => .ok ⟨value, teller.1.rank, domain, position⟩ := by
  unfold together
  simp only [loggedExtremum_eq shareOf extreme named]
  rw [outcomes_own_steps _ _ own _ scans,
    selectExtreme_all connects extreme (fun seat => submission (own seat)), chosen]
  simp only [afterVote]
  rw [broadcastPlace_all connects (fun seat => told (own seat)) isSeat tells]
  have unlogged : outcomes ((seats kind shares).map fun seat =>
        Collective.log LogLevel.debug .statistics
          (extremumText extreme (shareOf seat.2).label value teller.1.rank domain) >>= fun _ =>
          pure (⟨value, teller.1.rank, domain, position⟩ : FieldExtremum Float)) =
      outcomes ((seats kind shares).map fun _ => (Collective.finish
        (.ok ⟨value, teller.1.rank, domain, position⟩) :
          Collective Float (FieldExtremum Float))) :=
    outcomes_congr _ _ _ fun seat => standing_log_bind _ _ _ _
  exact unlogged.trans (outcomes_finish _)

/-- If the winner of the vote cannot tell its place, it fails and all others are left waiting. -/
theorem extremum_untold (connects : kind.Connects shares.length)
    (named : ∀ share, (shareOf share).name = name)
    (own : ProcessGroup × ω → Option (OwnExtremum Float))
    (scans : ∀ seat ∈ seats kind shares,
      (shareOf seat.2).ownExtremum extreme = .ok (own seat))
    {teller : ProcessGroup × ω} (isSeat : teller ∈ seats kind shares) {value : Float}
    (chosen : select extreme ((seats kind shares).map fun seat => submission (own seat)) =
      some (value, teller.1.rank))
    {cause : Error}
    (fails : teller.1.placeOffer (told (own teller)) teller.1.rank = .error cause) :
    together kind (fun group share => (shareOf share).loggedExtremum extreme group) shares =
      (seats kind shares).map fun seat =>
        leftWaiting (seat.1.placeOffer (told (own seat)) teller.1.rank) := by
  unfold together
  simp only [loggedExtremum_eq shareOf extreme named]
  rw [outcomes_own_steps _ _ own _ scans,
    selectExtreme_all connects extreme (fun seat => submission (own seat)), chosen]
  simp only [afterVote]
  exact broadcastPlace_failed connects (fun seat => told (own seat)) isSeat fails _

theorem extremum_unscanned (connects : kind.Connects shares.length)
    (named : ∀ share, (shareOf share).name = name)
    (failed : ∃ seat ∈ seats kind shares, ∃ cause,
      (shareOf seat.2).ownExtremum extreme = .error cause) :
    together kind (fun group share => (shareOf share).loggedExtremum extreme group) shares =
      (seats kind shares).map fun seat =>
        leftWaiting ((shareOf seat.2).ownExtremum extreme) := by
  unfold together
  simp only [loggedExtremum_eq shareOf extreme named]
  refine outcomes_failed_step _ _ _ ?_ failed
  intro several seat isSeat own
  rw [length_seats] at several
  exact (selectExtreme_waits connects isSeat several extreme _ _).bind _

/-- The best entry of a group and the rank of the process that holds it, if all processes can go
through their own domains and some of them find an entry. -/
def winner? (shares : List (FieldShare Float)) : Option (Float × Nat) :=
  match shares.mapM (FieldShare.ownExtremum extreme) with
  | .ok found => select extreme (found.map submission)
  | .error _ => none

/-- What a process does by itself in the search for an extreme entry: it goes through its own
domains, and if it holds the winning entry, it looks up where that lies and in which domain. -/
def extremumStep (shares : List ω) (group : ProcessGroup) (share : ω) : Except Error Unit := do
  let own ← (shareOf share).ownExtremum extreme
  match winner? extreme (shares.map shareOf) with
  | some (_, rank) =>
      let _ ← group.placeOffer (told own) rank
  | none => return ()

theorem winner?_of_scans (own : ProcessGroup × ω → Option (OwnExtremum Float))
    (scans : ∀ seat ∈ seats kind shares,
      (shareOf seat.2).ownExtremum extreme = .ok (own seat)) :
    winner? extreme (shares.map shareOf) =
      select extreme ((seats kind shares).map fun seat => submission (own seat)) := by
  have found : (shares.map shareOf).mapM (FieldShare.ownExtremum extreme) =
      .ok ((seats kind shares).map own) := by
    rw [← map_seats_share kind shareOf, List.mapM_map]
    exact mapM_of_forall_ok scans
  unfold winner?
  rw [found]
  simp only [List.map_map]
  rfl

theorem exists_winner {own : ProcessGroup × ω → Option (OwnExtremum Float)} {value : Float}
    {rank : Nat}
    (chosen : select extreme ((seats kind shares).map fun seat => submission (own seat)) =
      some (value, rank)) :
    ∃ teller ∈ seats kind shares, teller.1.rank = rank ∧
      ∃ found, own teller = some found ∧ found.value = value := by
  obtain ⟨teller, isSeat, atRank, submitted⟩ := exists_chosen chosen
  refine ⟨teller, isSeat, atRank, ?_⟩
  cases holds : own teller with
  | none =>
      rw [holds] at submitted
      cases submitted
  | some found =>
      rw [holds] at submitted
      exact ⟨found, rfl, congrArg Prod.fst submitted⟩

theorem placeOffer_winner {group : ProcessGroup} {found : OwnExtremum Float}
    {payload : Payload Float}
    (offers : group.placeOffer (told (some found)) group.rank = .ok payload) :
    ∃ position domain, payload = .place position domain := by
  unfold placeOffer at offers
  rw [if_pos rfl] at offers
  obtain ⟨content, isPlace, offers⟩ := bind_eq_ok.mp offers
  have toldPlace : told (some found) = some <$> found.place := rfl
  rw [toldPlace] at isPlace
  cases placed : found.place with
  | error cause =>
      rw [placed] at isPlace
      cases isPlace
  | ok place =>
      rw [placed] at isPlace
      cases isPlace
      simp only at offers
      split at offers
      · obtain ⟨_, _, offers⟩ := bind_eq_ok.mp offers
        cases offers
        exact ⟨_, _, rfl⟩
      · cases offers
        exact ⟨_, _, rfl⟩

theorem winner?_of_unscanned (unscanned : ∃ seat ∈ seats kind shares, ∃ cause,
      (shareOf seat.2).ownExtremum extreme = .error cause) :
    winner? extreme (shares.map shareOf) = none := by
  obtain ⟨seat, isSeat, cause, fails⟩ := unscanned
  unfold winner?
  cases scanned : (shares.map shareOf).mapM (FieldShare.ownExtremum extreme) with
  | error other => rfl
  | ok found =>
      have isShare : shareOf seat.2 ∈ shares.map shareOf :=
        List.mem_map_of_mem (share_mem_of_mem_seats isSeat)
      obtain ⟨result, _, succeeds⟩ := exists_of_mapM_ok scanned isShare
      rw [fails] at succeeds
      cases succeeds

theorem extremum_decided_unscanned (connects : kind.Connects shares.length)
    (named : ∀ share, (shareOf share).name = name)
    (unscanned : ∃ seat ∈ seats kind shares, ∃ cause,
      (shareOf seat.2).ownExtremum extreme = .error cause) :
    DecidedByOwnSteps kind
      (fun group share => (shareOf share).loggedExtremum extreme group)
      (extremumStep shareOf extreme shares) shares := by
  have sameStep (seat : ProcessGroup × ω) :
      extremumStep shareOf extreme shares seat.1 seat.2 =
        (shareOf seat.2).ownExtremum extreme >>= fun _ => .ok () := by
    unfold extremumStep
    rw [winner?_of_unscanned shareOf extreme unscanned]
    rfl
  constructor
  · intro succeeded
    obtain ⟨seat, isSeat, cause, fails⟩ := unscanned
    obtain ⟨_, passed⟩ := succeeded seat isSeat
    rw [sameStep, fails] at passed
    cases passed
  · intro _
    rw [extremum_unscanned shareOf extreme connects named unscanned]
    apply List.map_congr_left
    intro seat _
    rw [sameStep]
    cases (shareOf seat.2).ownExtremum extreme <;> rfl

/-- Once all processes have gone through their own domains, only the winner of the vote can fail, and
it does if it cannot tell its place. -/
theorem extremum_decided_won (connects : kind.Connects shares.length)
    (named : ∀ share, (shareOf share).name = name)
    (own : ProcessGroup × ω → Option (OwnExtremum Float))
    (scans : ∀ seat ∈ seats kind shares,
      (shareOf seat.2).ownExtremum extreme = .ok (own seat))
    {winner : Float × Nat}
    (chosen : select extreme ((seats kind shares).map fun seat => submission (own seat)) =
      some winner) :
    DecidedByOwnSteps kind
      (fun group share => (shareOf share).loggedExtremum extreme group)
      (extremumStep shareOf extreme shares) shares := by
  obtain ⟨value, rank⟩ := winner
  obtain ⟨teller, isSeat, rfl, found, holds, _⟩ := exists_winner extreme chosen
  have sameStep : ∀ seat ∈ seats kind shares,
      extremumStep shareOf extreme shares seat.1 seat.2 =
        seat.1.placeOffer (told (own seat)) teller.1.rank >>= fun _ => .ok () := by
    intro seat seatIn
    unfold extremumStep
    rw [scans seat seatIn, winner?_of_scans shareOf extreme own scans, chosen]
    rfl
  cases offers : teller.1.placeOffer (told (own teller)) teller.1.rank with
  | ok payload =>
      have toldPlace := offers
      rw [holds] at toldPlace
      obtain ⟨position, domain, rfl⟩ := placeOffer_winner toldPlace
      have allReturn := extremum_told shareOf extreme connects named own scans isSeat chosen
        offers
      constructor
      · intro _
        exact ⟨_, allReturn, by rintro _ ⟨⟩⟩
      · rintro ⟨seat, seatIn, cause, fails⟩
        rw [sameStep seat seatIn] at fails
        by_cases isTeller : seat.1.rank = teller.1.rank
        · have same := eq_of_rank_eq seatIn isSeat isTeller
          rw [same, offers] at fails
          cases fails
        · unfold placeOffer at fails
          rw [if_neg isTeller] at fails
          cases fails
  | error cause =>
      constructor
      · intro succeeded
        obtain ⟨_, passed⟩ := succeeded teller isSeat
        rw [sameStep teller isSeat, offers] at passed
        cases passed
      · intro _
        rw [extremum_untold shareOf extreme connects named own scans isSeat chosen offers]
        apply List.map_congr_left
        intro seat seatIn
        rw [sameStep seat seatIn]
        cases seat.1.placeOffer (told (own seat)) teller.1.rank <;> rfl

theorem extremum_decided (connects : kind.Connects shares.length)
    (name : String) (named : ∀ share, (shareOf share).name = name) :
    DecidedByOwnSteps kind
      (fun group share => (shareOf share).loggedExtremum extreme group)
      (extremumStep shareOf extreme shares) shares := by
  by_cases unscanned : ∃ seat ∈ seats kind shares, ∃ cause,
      (shareOf seat.2).ownExtremum extreme = .error cause
  · exact extremum_decided_unscanned shareOf extreme connects named unscanned
  · let own : ProcessGroup × ω → Option (OwnExtremum Float) := fun seat =>
      match (shareOf seat.2).ownExtremum extreme with
      | .ok found => found
      | .error _ => none
    have scans : ∀ seat ∈ seats kind shares,
        (shareOf seat.2).ownExtremum extreme = .ok (own seat) := by
      intro seat isSeat
      cases scanned : (shareOf seat.2).ownExtremum extreme with
      | error cause => exact absurd ⟨seat, isSeat, cause, scanned⟩ unscanned
      | ok found => simp only [own, scanned]
    cases chosen : select extreme ((seats kind shares).map fun seat => submission (own seat)) with
    | none =>
        have allFail := extremum_none shareOf extreme connects named own scans chosen
        constructor
        · intro _
          exact ⟨_, allFail, by rintro _ ⟨⟩; rfl⟩
        · rintro ⟨seat, isSeat, cause, fails⟩
          unfold extremumStep at fails
          rw [scans seat isSeat, winner?_of_scans shareOf extreme own scans, chosen] at fails
          cases fails
    | some winner => exact extremum_decided_won shareOf extreme connects named own scans chosen

end ProcessGroup

end FieldSurvey
