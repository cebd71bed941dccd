import FieldSurvey.Agreement
import FieldSurvey.Proofs.Group.Exchange
import FieldSurvey.Proofs.Kernel.FirstBest
import FieldSurvey.Proofs.Packed.Transit

/-!
How a group chooses one of its processes and is told something by it. All vote for the best of what
they submit, and the process that wins hands over what it has to tell. It prepares this by itself,
between two exchanges: if it cannot, it fails while all others already wait for it.
-/

namespace FieldSurvey

section Select

variable {α : Type} [Scalar α]

/-- The submissions that are present, each with the rank that made it. -/
def presentSubmissions (rank : Nat) (submissions : List (α × Bool)) : List (Option (α × Nat)) :=
  (submissions.zipIdx rank).map fun item => if item.1.2 then some (item.1.1, item.2) else none

theorem selectFrom_eq (extreme : Extreme) (rank : Nat) (best : Option (α × Nat))
    (submissions : List (α × Bool)) :
    selectFrom extreme rank best submissions =
      (presentSubmissions rank submissions).foldl
        (leading fun candidate leader => extreme.beats candidate.1 leader.1) best := by
  induction submissions generalizing rank best with
  | nil => rfl
  | cons submission rest inductionHypothesis =>
      obtain ⟨candidate, present⟩ := submission
      unfold selectFrom
      simp only [presentSubmissions, List.zipIdx_cons, List.map_cons, List.foldl_cons] at *
      rw [inductionHypothesis]
      congr 1
      cases present with
      | false => cases best <;> rfl
      | true =>
          cases best with
          | none => rfl
          | some leader => rfl

/-- The vote chooses the first best of the submissions that are present. -/
theorem select_eq_leader (extreme : Extreme) (submissions : List (α × Bool)) :
    select extreme submissions =
      leader (fun candidate best => extreme.beats candidate.1 best.1)
        (presentSubmissions 0 submissions) :=
  selectFrom_eq extreme 0 none submissions

omit [Scalar α] in
theorem getElem?_presentSubmissions {submissions : List (α × Bool)} {rank : Nat}
    {item : α × Nat} :
    (presentSubmissions 0 submissions)[rank]? = some (some item) ↔
      submissions[rank]? = some (item.1, true) ∧ item.2 = rank := by
  unfold presentSubmissions
  rw [List.getElem?_map, List.getElem?_zipIdx]
  obtain ⟨value, leader⟩ := item
  cases found : submissions[rank]? with
  | none => simp
  | some submission =>
      obtain ⟨candidate, present⟩ := submission
      cases present with
      | false => simp
      | true =>
          simp only [Option.map_some, if_true, Option.some.injEq, Prod.mk.injEq, Nat.zero_add,
            and_true]
          constructor
          · rintro ⟨rfl, rfl⟩
            exact ⟨rfl, rfl⟩
          · rintro ⟨rfl, rfl⟩
            exact ⟨rfl, rfl⟩

theorem submission_of_select {extreme : Extreme} {submissions : List (α × Bool)} {value : α}
    {rank : Nat} (chosen : select extreme submissions = some (value, rank)) :
    submissions[rank]? = some (value, true) := by
  rw [select_eq_leader] at chosen
  obtain ⟨place, found⟩ := List.getElem?_of_mem (leader_mem chosen)
  obtain ⟨submitted, same⟩ := getElem?_presentSubmissions.mp found
  rw [show rank = place from same]
  exact submitted

end Select

/-- What comes out of a vote between two alternatives once it is known whether somebody is for the
first and whether somebody is for the second. -/
def ProcessGroup.Vote.of (first second : Bool) : ProcessGroup.Vote :=
  match first, second with
  | true, true => .both
  | true, false => .first
  | false, true => .second
  | false, false => .neither

/-- What a process hands in that tells all others a value. It is packed, except in a group of one. -/
def GroupKind.handIn {α : Type} (kind : GroupKind) (content : Value) : Except Error (Payload α) :=
  match kind with
  | .alone => .ok (.value content)
  | _ => do return .value (.bytes (← pack content))

def GroupKind.takeIn {α : Type} (kind : GroupKind) (received : Payload α) : Except Error Value :=
  match kind with
  | .alone => expected Payload.value? received
  | _ => do unpack (← expected Payload.bytes? received)

/-- What becomes of a value that one process tells all others. -/
def GroupKind.arrival (kind : GroupKind) (content : Value) : Except Error Value :=
  match kind with
  | .alone => .ok content
  | _ => content.transit

theorem GroupKind.takeIn_handIn {α : Type} {kind : GroupKind} {content : Value}
    {payload : Payload α} (handed : kind.handIn content = .ok payload) :
    kind.takeIn payload = kind.arrival content := by
  have unpacked (packedAlong : (pack content >>= fun bytes =>
        pure (Payload.value (.bytes bytes) : Payload α)) = .ok payload) :
      (expected Payload.bytes? payload >>= unpack) = content.transit := by
    obtain ⟨bytes, packed, same⟩ := bind_eq_ok.mp packedAlong
    cases same
    exact unpack_pack packed
  cases kind with
  | alone =>
      cases handed
      rfl
  | lockstep => exact unpacked handed
  | messagePassing => exact unpacked handed
  | unspecified => exact unpacked handed

namespace ProcessGroup

open Collective

variable {α β δ ω : Type} {kind : GroupKind} {shares : List ω}

section Votes

variable [Scalar α]

theorem vote_all (connects : kind.Connects shares.length)
    (first second : ProcessGroup × ω → Bool)
    (next : ProcessGroup × ω → Vote → Collective α β) :
    outcomes ((seats kind shares).map fun seat =>
        seat.1.vote (first seat) (second seat) >>= next seat) =
      outcomes ((seats kind shares).map fun seat =>
        next seat (.of ((seats kind shares).any first) ((seats kind shares).any second))) := by
  simp only [vote, bind_bind]
  rw [anyTrue_all connects first, anyTrue_all connects second]
  rfl

theorem vote_waits (connects : kind.Connects shares.length) {seat : ProcessGroup × ω}
    (isSeat : seat ∈ seats kind shares) (several : 1 < shares.length) (first second : Bool) :
    (seat.1.vote first second : Collective α Vote).Waits :=
  (anyTrue_waits connects isSeat several first).bind _

theorem selectExtreme_all (connects : kind.Connects shares.length) (extreme : Extreme)
    (submission : ProcessGroup × ω → α × Bool)
    (next : ProcessGroup × ω → Option (α × Nat) → Collective α β) :
    outcomes ((seats kind shares).map fun seat =>
        seat.1.selectExtreme extreme (submission seat).1 (submission seat).2 >>= next seat) =
      outcomes ((seats kind shares).map fun seat =>
        next seat (select extreme ((seats kind shares).map submission))) := by
  have readable : ((seats kind shares).map fun seat =>
        Payload.candidate (submission seat).1 (submission seat).2).mapM
          (expected Payload.candidate?) =
      .ok ((seats kind shares).map submission) := by
    rw [List.mapM_map]
    induction seats kind shares with
    | nil => rfl
    | cons first rest inductionHypothesis =>
        rw [List.mapM_cons, inductionHypothesis]
        rfl
  simp only [selectExtreme, bind_bind]
  rw [gather_all connects _ fun seat received =>
    ofExcept (received.mapM (expected Payload.candidate?)) >>= fun submissions =>
      pure (select extreme submissions) >>= next seat]
  simp only [readable]
  rfl

theorem selectExtreme_waits (connects : kind.Connects shares.length)
    {seat : ProcessGroup × ω} (isSeat : seat ∈ seats kind shares) (several : 1 < shares.length)
    (extreme : Extreme) (number : α) (present : Bool) :
    (seat.1.selectExtreme extreme number present).Waits :=
  (gather_waits connects isSeat several _).bind _

theorem exists_chosen {extreme : Extreme} {submission : ProcessGroup × ω → α × Bool} {value : α}
    {rank : Nat}
    (chosen : select extreme ((seats kind shares).map submission) = some (value, rank)) :
    ∃ teller ∈ seats kind shares, teller.1.rank = rank ∧ submission teller = (value, true) := by
  have submitted := submission_of_select chosen
  rw [List.getElem?_map] at submitted
  obtain ⟨teller, atRank, submitted⟩ := Option.map_eq_some_iff.mp submitted
  obtain ⟨inGroup, isTeller⟩ := List.getElem?_eq_some_iff.mp atRank
  refine ⟨teller, List.mem_of_getElem? atRank, ?_, submitted⟩
  rw [← isTeller, getElem_seats]

end Votes

section Telling

/-- What a process hands in when the process of a rank tells all others something. -/
def rootOffer (group : ProcessGroup) (root : Nat) (offer : Except Error (Payload α)) :
    Except Error (Payload α) :=
  if group.rank = root then offer else .ok (.value .null)

def readFrom (root : Nat) (read : Payload α → Except Error δ) (received : List (Payload α)) :
    Except Error δ :=
  match received[root]? with
  | some content => read content
  | none => .error .badSubscript

/-- Telling all others something is an own step, an exchange and the reading of what was handed in. -/
theorem broadcast_eq (connects : kind.Connects shares.length) {seat : ProcessGroup × ω}
    (isSeat : seat ∈ seats kind shares) {root : Nat} (inGroup : root < shares.length)
    (offer : Except Error (Payload α)) (read : Payload α → Except Error δ) :
    seat.1.broadcast root offer read =
      ofExcept (seat.1.rootOffer root offer) >>= fun own =>
        seat.1.gather own >>= fun received => ofExcept (readFrom root read received) := by
  have isRank : (0 : Int) ≤ root ∧ (root : Int) < shares.length := by omega
  unfold broadcast rootOffer
  rw [size?_of_mem_seats connects isSeat, ofExcept_ok_bind, if_pos isRank]
  simp only [Int.toNat_natCast, Int.natCast_inj]
  have reads (received : List (Payload α)) :
      (match received[root]? with
        | some content => Collective.ofExcept (read content)
        | none => Collective.fail (α := α) Error.badSubscript) =
      Collective.ofExcept (readFrom root read received) := by
    unfold readFrom
    cases received[root]? <;> rfl
  exact congrArg (fun goOn => Collective.ofExcept _ >>= fun own => seat.1.gather own >>= goOn)
    (funext reads)

theorem outcomes_broadcast (connects : kind.Connects shares.length) {root : Nat}
    (inGroup : root < shares.length) (offer : ProcessGroup × ω → Except Error (Payload α))
    (read : Payload α → Except Error δ) (next : ProcessGroup × ω → δ → Collective α β) :
    outcomes ((seats kind shares).map fun seat =>
        seat.1.broadcast root (offer seat) read >>= next seat) =
      outcomes ((seats kind shares).map fun seat =>
        Collective.ofExcept (seat.1.rootOffer root (offer seat)) >>= fun own =>
          seat.1.gather own >>= fun received =>
            Collective.ofExcept (readFrom root read received) >>= next seat) := by
  congr 1
  apply List.map_congr_left
  intro seat isSeat
  rw [broadcast_eq connects isSeat inGroup]
  simp only [bind_bind]

/-- What one process hands over is read by all. -/
theorem broadcast_all (connects : kind.Connects shares.length)
    (offer : ProcessGroup × ω → Except Error (Payload α)) (read : Payload α → Except Error δ)
    {teller : ProcessGroup × ω} (isSeat : teller ∈ seats kind shares) {payload : Payload α}
    (offers : offer teller = .ok payload) (next : ProcessGroup × ω → δ → Collective α β) :
    outcomes ((seats kind shares).map fun seat =>
        seat.1.broadcast teller.1.rank (offer seat) read >>= next seat) =
      outcomes ((seats kind shares).map fun seat =>
        Collective.ofExcept (read payload) >>= next seat) := by
  let handed : ProcessGroup × ω → Payload α := fun seat =>
    if seat.1.rank = teller.1.rank then payload else .value .null
  have hands : ∀ seat ∈ seats kind shares,
      seat.1.rootOffer teller.1.rank (offer seat) = .ok (handed seat) := by
    intro seat seatIn
    unfold rootOffer
    by_cases isTeller : seat.1.rank = teller.1.rank
    · simp only [handed, if_pos isTeller]
      rw [eq_of_rank_eq seatIn isSeat isTeller]
      exact offers
    · simp only [handed, if_neg isTeller]
  have reads : readFrom teller.1.rank read ((seats kind shares).map handed) = read payload := by
    unfold readFrom
    rw [List.getElem?_map, getElem?_seats_of_mem isSeat]
    simp only [Option.map_some, handed, if_pos]
  rw [outcomes_broadcast connects (rank_lt_of_mem_seats isSeat),
    outcomes_own_steps _ _ handed _ hands, gather_all connects handed]
  simp only [reads]

/-- If the process that should tell the others something fails, all others are left waiting. -/
theorem broadcast_failed (connects : kind.Connects shares.length)
    (offer : ProcessGroup × ω → Except Error (Payload α)) (read : Payload α → Except Error δ)
    {teller : ProcessGroup × ω} (isSeat : teller ∈ seats kind shares) {cause : Error}
    (fails : offer teller = .error cause) (next : ProcessGroup × ω → δ → Collective α β) :
    outcomes ((seats kind shares).map fun seat =>
        seat.1.broadcast teller.1.rank (offer seat) read >>= next seat) =
      (seats kind shares).map fun seat =>
        leftWaiting (seat.1.rootOffer teller.1.rank (offer seat)) := by
  rw [outcomes_broadcast connects (rank_lt_of_mem_seats isSeat)]
  apply outcomes_failed_step
  · intro several seat seatIn own
    rw [length_seats] at several
    exact (gather_waits connects seatIn several own).bind _
  · refine ⟨teller, isSeat, cause, ?_⟩
    unfold rootOffer
    rw [if_pos rfl]
    exact fails

theorem broadcast_outside (connects : kind.Connects shares.length) {seat : ProcessGroup × ω}
    (isSeat : seat ∈ seats kind shares) {root : Int} (outside : ¬ (0 ≤ root ∧ root < shares.length))
    (offer : Except Error (Payload α)) (read : Payload α → Except Error δ) :
    seat.1.broadcast root offer read =
      Collective.fail (.rootOutside (toString root) shares.length) := by
  unfold broadcast
  rw [size?_of_mem_seats connects isSeat, ofExcept_ok_bind, if_neg outside]

end Telling

section Places

def preparedPlace (kind : GroupKind) (content : Except Error (Option (Position α × Int))) :
    Except Error (Payload α) := do
  match ← content with
  | some (position, domain) =>
      if kind ≠ .alone then
        let _ ← packWhole domain
      return .place position domain
  | none => return .value .null

/-- What a process hands in when the process of a rank tells all others of a place. -/
def placeOffer (group : ProcessGroup) (content : Except Error (Option (Position α × Int)))
    (root : Nat) : Except Error (Payload α) :=
  if group.rank = root then do
    match ← content with
    | some (position, domain) =>
        if group.kind ≠ .alone then
          let _ ← packWhole domain
        return .place position domain
    | none => return .value .null
  else .ok (.value .null)

theorem placeOffer_eq (group : ProcessGroup) (content : Except Error (Option (Position α × Int)))
    (root : Nat) :
    group.placeOffer content root = group.rootOffer root (preparedPlace group.kind content) := rfl

theorem broadcastPlace_eq (group : ProcessGroup)
    (content : Except Error (Option (Position α × Int))) (root : Nat) :
    group.broadcastPlace content root =
      group.broadcast root (preparedPlace group.kind content) (expected Payload.place?) := rfl

theorem broadcastPlace_all (connects : kind.Connects shares.length)
    (content : ProcessGroup × ω → Except Error (Option (Position α × Int)))
    {teller : ProcessGroup × ω} (isSeat : teller ∈ seats kind shares) {position : Position α}
    {domain : Int}
    (tells : teller.1.placeOffer (content teller) teller.1.rank = .ok (.place position domain))
    (next : ProcessGroup × ω → Position α × Int → Collective α β) :
    outcomes ((seats kind shares).map fun seat =>
        seat.1.broadcastPlace (content seat) teller.1.rank >>= next seat) =
      outcomes ((seats kind shares).map fun seat => next seat (position, domain)) := by
  rw [placeOffer_eq, rootOffer, if_pos rfl] at tells
  simp only [broadcastPlace_eq]
  rw [broadcast_all connects (fun seat => preparedPlace seat.1.kind (content seat)) _ isSeat tells]
  rfl

/-- If the process that should tell of a place fails, all others are left waiting. -/
theorem broadcastPlace_failed (connects : kind.Connects shares.length)
    (content : ProcessGroup × ω → Except Error (Option (Position α × Int)))
    {teller : ProcessGroup × ω} (isSeat : teller ∈ seats kind shares) {cause : Error}
    (fails : teller.1.placeOffer (content teller) teller.1.rank = .error cause)
    (next : ProcessGroup × ω → Position α × Int → Collective α β) :
    outcomes ((seats kind shares).map fun seat =>
        seat.1.broadcastPlace (content seat) teller.1.rank >>= next seat) =
      (seats kind shares).map fun seat =>
        leftWaiting (seat.1.placeOffer (content seat) teller.1.rank) := by
  rw [placeOffer_eq, rootOffer, if_pos rfl] at fails
  simp only [broadcastPlace_eq, placeOffer_eq]
  exact broadcast_failed connects (fun seat => preparedPlace seat.1.kind (content seat)) _ isSeat
    fails next

end Places

section Values

theorem broadcastValue_eq (group : ProcessGroup) (content : Value) (root : Int) :
    (group.broadcastValue content root : Collective α Value) =
      group.broadcast root (group.kind.handIn content) group.kind.takeIn := by
  unfold broadcastValue
  cases group.kind <;> rfl

/-- A value from one process reaches all others as it arrives there. -/
theorem broadcastValue_all (connects : kind.Connects shares.length)
    (content : ProcessGroup × ω → Value) {teller : ProcessGroup × ω}
    (isSeat : teller ∈ seats kind shares) {payload : Payload α}
    (handed : kind.handIn (content teller) = .ok payload)
    (next : ProcessGroup × ω → Value → Collective α β) :
    outcomes ((seats kind shares).map fun seat =>
        seat.1.broadcastValue (content seat) teller.1.rank >>= next seat) =
      outcomes ((seats kind shares).map fun seat =>
        Collective.ofExcept (kind.arrival (content teller)) >>= next seat) := by
  have ofKind : ∀ seat ∈ seats kind shares,
      (seat.1.broadcastValue (content seat) teller.1.rank >>= next seat) =
        seat.1.broadcast teller.1.rank (kind.handIn (content seat)) kind.takeIn >>= next seat := by
    intro seat seatIn
    rw [broadcastValue_eq, (of_mem_seats seatIn).1]
  rw [List.map_congr_left ofKind, broadcast_all connects _ _ isSeat handed,
    GroupKind.takeIn_handIn handed]

theorem broadcastValue_failed (connects : kind.Connects shares.length)
    (content : ProcessGroup × ω → Value) {teller : ProcessGroup × ω}
    (isSeat : teller ∈ seats kind shares) {cause : Error}
    (fails : (kind.handIn (content teller) : Except Error (Payload α)) = .error cause)
    (next : ProcessGroup × ω → Value → Collective α β) :
    outcomes ((seats kind shares).map fun seat =>
        seat.1.broadcastValue (content seat) teller.1.rank >>= next seat) =
      (seats kind shares).map fun seat =>
        leftWaiting (seat.1.rootOffer teller.1.rank (kind.handIn (content seat) : Except Error (Payload α))) := by
  have ofKind : ∀ seat ∈ seats kind shares,
      (seat.1.broadcastValue (content seat) teller.1.rank >>= next seat) =
        seat.1.broadcast teller.1.rank (kind.handIn (content seat)) kind.takeIn >>= next seat := by
    intro seat seatIn
    rw [broadcastValue_eq, (of_mem_seats seatIn).1]
  rw [List.map_congr_left ofKind]
  exact broadcast_failed connects _ _ isSeat fails next

end Values

end ProcessGroup

end FieldSurvey
