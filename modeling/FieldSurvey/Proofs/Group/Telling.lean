import FieldSurvey.Proofs.Group.Choosing
import FieldSurvey.Proofs.Group.Deciding

/-!
Programs in which a vote decides who tells all others something. Each process bids with what it has
to tell; the winner prepares its value by itself, and only that can fail. The longest text of a group
and the objections that are raised by the whole group are told in this way.
-/

namespace FieldSurvey

/-- What a process puts forward to be told to all: a value and its weight, if it bids at all. -/
structure Bid where
  content : Value
  weight : Float
  present : Bool

namespace Bid

def ofText (text : String) : Bid := ⟨.text text, Scalar.ofInt text.length, true⟩

def submission (bid : Bid) : Float × Bool := (bid.weight, bid.present)

/-- The bid that wins the vote, with the rank of the process that made it. -/
def winner? (bids : List Bid) : Option (Nat × Bid) := do
  let (_, rank) ← select .greatest (bids.map submission)
  let bid ← bids[rank]?
  return (rank, bid)

theorem winner?_eq_none {bids : List Bid} :
    winner? bids = none ↔ select .greatest (bids.map submission) = none := by
  unfold winner?
  cases chosen : select .greatest (bids.map submission) with
  | none => simp
  | some winner =>
      obtain ⟨value, rank⟩ := winner
      have submitted := submission_of_select chosen
      rw [List.getElem?_map] at submitted
      obtain ⟨bid, atRank, _⟩ := Option.map_eq_some_iff.mp submitted
      simp [atRank]

theorem winner?_eq_some {bids : List Bid} {rank : Nat} {bid : Bid} :
    winner? bids = some (rank, bid) ↔
      (∃ value, select .greatest (bids.map submission) = some (value, rank)) ∧
        bids[rank]? = some bid := by
  unfold winner?
  cases chosen : select .greatest (bids.map submission) with
  | none => simp
  | some winner =>
      obtain ⟨value, other⟩ := winner
      simp only [Option.bind_eq_bind, Option.bind_some, Option.pure_def, Option.bind_eq_some_iff,
        Option.some.injEq, Prod.mk.injEq]
      constructor
      · rintro ⟨found, atRank, rfl, rfl⟩
        exact ⟨⟨value, rfl, rfl⟩, atRank⟩
      · rintro ⟨⟨_, _, rfl⟩, atRank⟩
        exact ⟨bid, atRank, rfl, rfl⟩

/-- If all processes bid, one of them wins. -/
theorem exists_winner_of_present {bids : List Bid} (someBid : bids ≠ [])
    (present : ∀ bid ∈ bids, bid.present = true) :
    ∃ rank, ∃ bid ∈ bids, winner? bids = some (rank, bid) := by
  cases won : winner? bids with
  | some winner =>
      obtain ⟨rank, bid⟩ := winner
      obtain ⟨_, atRank⟩ := winner?_eq_some.mp won
      exact ⟨rank, bid, List.mem_of_getElem? atRank, rfl⟩
  | none =>
      obtain ⟨first, rest, rfl⟩ := List.exists_cons_of_ne_nil someBid
      have noneChosen := winner?_eq_none.mp won
      rw [select_eq_leader] at noneChosen
      have isPresent : (presentSubmissions 0 ((first :: rest).map submission))[0]? =
          some (some (first.weight, 0)) := by
        rw [getElem?_presentSubmissions]
        simp [submission, present first List.mem_cons_self]
      cases leader_eq_none.mp noneChosen _ (List.mem_of_getElem? isPresent)

theorem winner?_of_none_present {bids : List Bid}
    (absent : ∀ bid ∈ bids, bid.present = false) : winner? bids = none := by
  cases won : winner? bids with
  | none => rfl
  | some winner =>
      obtain ⟨rank, bid⟩ := winner
      obtain ⟨⟨value, chosen⟩, atRank⟩ := winner?_eq_some.mp won
      have submitted := submission_of_select chosen
      rw [List.getElem?_map, atRank] at submitted
      have isPresent : bid.present = true := congrArg Prod.snd (Option.some.inj submitted)
      rw [absent bid (List.mem_of_getElem? atRank)] at isPresent
      cases isPresent

theorem getElem?_presentBids {bids : List Bid} {place : Nat} {candidate : Float × Nat} :
    (presentSubmissions 0 (bids.map submission))[place]? = some (some candidate) ↔
      ∃ bid, bids[place]? = some bid ∧ bid.weight = candidate.1 ∧ bid.present = true ∧
        candidate.2 = place := by
  rw [getElem?_presentSubmissions, List.getElem?_map, Option.map_eq_some_iff]
  simp only [submission, Prod.mk.injEq]
  constructor
  · rintro ⟨⟨bid, isBid, sameWeight, isPresent⟩, atPlace⟩
    exact ⟨bid, isBid, sameWeight, isPresent, atPlace⟩
  · rintro ⟨bid, isBid, sameWeight, isPresent, atPlace⟩
    exact ⟨⟨bid, isBid, sameWeight, isPresent⟩, atPlace⟩

/-- Among bids of one weight, which does not beat itself, the first one that is made wins. -/
theorem winner?_first {lower higher : List Bid} {bid : Bid} {weight : Float}
    (isTie : Extreme.greatest.beats weight weight = false)
    (even : ∀ other ∈ lower ++ bid :: higher, other.weight = weight)
    (present : bid.present = true) (absent : ∀ other ∈ lower, other.present = false) :
    winner? (lower ++ bid :: higher) = some (lower.length, bid) := by
  have atRank : (lower ++ bid :: higher)[lower.length]? = some bid := by simp
  have isSubmitted :
      (presentSubmissions 0 ((lower ++ bid :: higher).map submission))[lower.length]? =
        some (some (bid.weight, lower.length)) :=
    getElem?_presentBids.mpr ⟨bid, atRank, rfl, present, rfl⟩
  have weighs (candidate : Float × Nat)
      (isCandidate : some candidate ∈
        presentSubmissions 0 ((lower ++ bid :: higher).map submission)) :
      candidate.1 = weight := by
    obtain ⟨place, isThere⟩ := List.getElem?_of_mem isCandidate
    obtain ⟨other, isOther, same, _⟩ := getElem?_presentBids.mp isThere
    rw [← same]
    exact even other (List.mem_of_getElem? isOther)
  cases chosen : select .greatest ((lower ++ bid :: higher).map submission) with
  | none =>
      rw [select_eq_leader] at chosen
      cases leader_eq_none.mp chosen _ (List.mem_of_getElem? isSubmitted)
  | some winner =>
      obtain ⟨value, rank⟩ := winner
      have leads := chosen
      rw [select_eq_leader] at leads
      -- With one key for all candidates the leader is the first one that is present.
      obtain ⟨place, isBest⟩ := leader_isFirstBest (fun _ => 0)
        (fun candidate old isCandidate isOld => by
          rw [weighs candidate isCandidate, weighs old isOld, isTie]
          rfl) leads
      obtain ⟨other, isOther, _, isPresent, isPlace⟩ := getElem?_presentBids.mp isBest.stands
      have notLater : ¬ lower.length < place := fun isLater =>
        absurd (isBest.first lower.length _ isLater isSubmitted) (Int.lt_irrefl 0)
      have notEarlier : ¬ place < lower.length := by
        intro isEarlier
        rw [List.getElem?_append_left isEarlier] at isOther
        rw [absent other (List.mem_of_getElem? isOther)] at isPresent
        cases isPresent
      have isRank : rank = lower.length := by
        have isOwnPlace : rank = place := isPlace
        omega
      exact winner?_eq_some.mpr ⟨⟨value, isRank ▸ chosen⟩, atRank⟩

end Bid

namespace ProcessGroup

open Collective

variable {β ω : Type} {kind : GroupKind} {shares : List ω}

/-- A vote over bids, after which the winner tells its value; without any bid there is an error. -/
def tell (group : ProcessGroup) (bid : Bid) (untold : Error) (next : Value → Collective Float β) :
    Collective Float β := do
  match ← group.selectExtreme .greatest bid.weight bid.present with
  | none => .fail untold
  | some (_, rank) => group.broadcastValue bid.content rank >>= next

/-- What a process does by itself when a value is told: the winner of the vote prepares its own. -/
def tellStep (group : ProcessGroup) (winner : Option (Nat × Bid)) (bid : Bid) : Except Error Unit :=
  if winner.map Prod.fst = some group.rank then do
    let _ ← (group.kind.handIn bid.content : Except Error (Payload Float))
    return ()
  else .ok ()

/-- What comes of a vote over bids, given what each process makes of the value it is told. -/
def toldResult (kind : GroupKind) (bids : List Bid) (untold : Error)
    (told : Value → Except Error β) : Except Error β :=
  match Bid.winner? bids with
  | some (_, bid) => kind.arrival bid.content >>= told
  | none => .error untold

@[simp] theorem tellStep_none (group : ProcessGroup) (bid : Bid) :
    group.tellStep none bid = .ok () := rfl

theorem tell_waits (connects : kind.Connects shares.length) {seat : ProcessGroup × ω}
    (isSeat : seat ∈ seats kind shares) (several : 1 < shares.length) (bid : Bid) (untold : Error)
    (next : Value → Collective Float β) : (seat.1.tell bid untold next).Waits :=
  (selectExtreme_waits connects isSeat several .greatest _ _).bind _

/-- Telling a value ends as handing it in does for the one that tells it. -/
theorem broadcastValue_ends (connects : kind.Connects shares.length)
    (content : ProcessGroup × ω → Value) {teller : ProcessGroup × ω}
    (isSeat : teller ∈ seats kind shares) {next : ProcessGroup × ω → Value → Collective Float β}
    {told : Value → Except Error β}
    (ends : ∀ seat arrived, (next seat arrived).standing = .ended (told arrived)) :
    EndsIn kind shares
      (fun seat => seat.1.broadcastValue (content seat) teller.1.rank >>= next seat)
      (fun seat => seat.1.rootOffer teller.1.rank
        (kind.handIn (content seat) : Except Error (Payload Float)) >>= fun _ => .ok ())
      (kind.arrival (content teller) >>= told) := by
  cases handed : (kind.handIn (content teller) : Except Error (Payload Float)) with
  | ok payload =>
      have allTold := broadcastValue_all connects content isSeat handed next
      constructor
      · intro _
        rw [allTold]
        cases kind.arrival (content teller) with
        | error cause => exact outcomes_finish _
        | ok arrived =>
            simp only [ofExcept_ok_bind, ok_bind]
            exact (EndsIn.of_ended fun seat => ends seat arrived).agree fun _ _ => rfl
      · rintro ⟨seat, seatIn, cause, fails⟩
        unfold rootOffer at fails
        by_cases isTeller : seat.1.rank = teller.1.rank
        · rw [if_pos isTeller, eq_of_rank_eq seatIn isSeat isTeller, handed] at fails
          cases fails
        · rw [if_neg isTeller] at fails
          cases fails
  | error cause =>
      constructor
      · intro succeeded
        have passed := succeeded teller isSeat
        rw [rootOffer, if_pos rfl, handed] at passed
        cases passed
      · intro _
        rw [broadcastValue_failed connects content isSeat handed next]
        apply List.map_congr_left
        intro seat seatIn
        cases seat.1.rootOffer teller.1.rank
          (kind.handIn (content seat) : Except Error (Payload Float)) <;> rfl

theorem tellStep_eq_rootOffer {seat : ProcessGroup × ω} (isSeat : seat ∈ seats kind shares)
    (rank : Nat) (winning bid : Bid) :
    seat.1.tellStep (some (rank, winning)) bid =
      seat.1.rootOffer rank (kind.handIn bid.content : Except Error (Payload Float)) >>=
        fun _ => .ok () := by
  unfold tellStep rootOffer
  rw [(of_mem_seats isSeat).1]
  simp only [Option.map_some, Option.some.injEq]
  by_cases isTeller : seat.1.rank = rank
  · rw [if_pos isTeller, if_pos isTeller.symm]
    rfl
  · rw [if_neg isTeller, if_neg (Ne.symm isTeller)]
    rfl

/-- A process that wins and can hand in its value does so, and no other one does anything. -/
theorem tellStep_of_handIn {bid : ω → Bid} {rank : Nat} {winning : Bid}
    (won : Bid.winner? (shares.map bid) = some (rank, winning)) {payload : Payload Float}
    (handed : kind.handIn winning.content = .ok payload) {seat : ProcessGroup × ω}
    (isSeat : seat ∈ seats kind shares) :
    seat.1.tellStep (Bid.winner? (shares.map bid)) (bid seat.2) = .ok () := by
  rw [won, tellStep_eq_rootOffer isSeat]
  unfold rootOffer
  by_cases isTeller : seat.1.rank = rank
  · have isWinning := (Bid.winner?_eq_some.mp won).2
    rw [← isTeller, List.getElem?_map, (of_mem_seats isSeat).2.2] at isWinning
    have isOwn : bid seat.2 = winning := Option.some.inj isWinning
    rw [if_pos isTeller, isOwn, handed]
    rfl
  · rw [if_neg isTeller]
    rfl

theorem tell_ends (connects : kind.Connects shares.length) (bid : ProcessGroup × ω → Bid)
    (untold : Error) {next : ProcessGroup × ω → Value → Collective Float β}
    {told : Value → Except Error β}
    (ends : ∀ seat arrived, (next seat arrived).standing = .ended (told arrived)) :
    EndsIn kind shares (fun seat => seat.1.tell (bid seat) untold (next seat))
      (fun seat => seat.1.tellStep (Bid.winner? ((seats kind shares).map bid)) (bid seat))
      (toldResult kind ((seats kind shares).map bid) untold told) := by
  have voted := selectExtreme_all connects .greatest (fun seat => (bid seat).submission)
    fun seat winner =>
      match winner with
      | none => Collective.fail untold
      | some (_, rank) => seat.1.broadcastValue (bid seat).content rank >>= next seat
  have submissions : (seats kind shares).map (fun seat => (bid seat).submission) =
      ((seats kind shares).map bid).map Bid.submission := by rw [List.map_map]; rfl
  rw [submissions] at voted
  cases won : Bid.winner? ((seats kind shares).map bid) with
  | none =>
      rw [Bid.winner?_eq_none.mp won] at voted
      apply EndsIn.of_outcomes voted
      simp only [tellStep, toldResult, won]
      exact EndsIn.of_ended fun _ => rfl
  | some winner =>
      obtain ⟨rank, winning⟩ := winner
      obtain ⟨⟨value, chosen⟩, atRank⟩ := Bid.winner?_eq_some.mp won
      rw [chosen] at voted
      rw [← submissions] at chosen
      obtain ⟨teller, isSeat, rfl, _⟩ := exists_chosen chosen
      have isBid : bid teller = winning := by
        rw [List.getElem?_map, getElem?_seats_of_mem isSeat] at atRank
        exact Option.some.inj atRank
      have tells := broadcastValue_ends connects (fun seat => (bid seat).content) isSeat ends
      apply EndsIn.of_outcomes voted
      simp only [toldResult, won, ← isBid]
      exact tells.of_steps fun seat seatIn => tellStep_eq_rootOffer seatIn _ _ _

theorem longestText_eq_tell (connects : kind.Connects shares.length) {seat : ProcessGroup × ω}
    (isSeat : seat ∈ seats kind shares) (text : String) (next : String → Collective Float β) :
    (seat.1.longestText text >>= next) =
      seat.1.tell (.ofText text) (.rootOutside (toString (-1 : Int)) shares.length)
        fun shared => next shared.spelled := by
  unfold longestText tell
  simp only [bind_bind]
  congr 1
  funext winner
  cases winner with
  | none =>
      simp only [broadcastValue_eq]
      rw [broadcast_outside connects isSeat (by omega)]
      rfl
  | some chosen => rfl

/-- If some process objects, the objection that wins the vote is told to all and raised by all; only
without any objection do they go on. -/
theorem objection_ends (connects : kind.Connects shares.length)
    (objection : ProcessGroup × ω → Option String) (text : String → String)
    (cause : String → Error) {next : ProcessGroup × ω → Collective Float β}
    {result : Except Error β} (ends : EndsIn kind shares next (fun _ => .ok ()) result) :
    EndsIn kind shares
      (fun seat => seat.1.objectIfAny (objection seat) text cause >>= fun _ => next seat)
      (fun seat => seat.1.tellStep
        (if (seats kind shares).any fun seat => (objection seat).isSome then
          Bid.winner? ((seats kind shares).map fun seat => .ofText ((objection seat).getD ""))
        else none)
        (.ofText ((objection seat).getD "")))
      (if (seats kind shares).any fun seat => (objection seat).isSome then
        toldResult kind ((seats kind shares).map fun seat => .ofText ((objection seat).getD ""))
          (.rootOutside (toString (-1 : Int)) shares.length)
          fun shared => .error (cause shared.spelled)
      else result) := by
  have voted : outcomes ((seats kind shares).map fun seat =>
        seat.1.objectIfAny (objection seat) text cause >>= fun _ => next seat) =
      outcomes ((seats kind shares).map fun seat =>
        if (seats kind shares).any fun seat => (objection seat).isSome then
          seat.1.tell (.ofText ((objection seat).getD ""))
            (.rootOutside (toString (-1 : Int)) shares.length) fun shared =>
              complain (text shared.spelled) (cause shared.spelled) >>= fun (_ : Unit) => next seat
        else next seat) := by
    simp only [objectIfAny, bind_bind]
    rw [anyTrue_all connects fun seat => (objection seat).isSome]
    congr 1
    apply List.map_congr_left
    intro seat isSeat
    split
    · rw [bind_bind, longestText_eq_tell connects isSeat]
    · rfl
  apply EndsIn.of_outcomes voted
  split
  · exact tell_ends connects (fun seat => .ofText ((objection seat).getD "")) _ fun _ _ => rfl
  · exact ends

theorem longestText_waits (connects : kind.Connects shares.length) {seat : ProcessGroup × ω}
    (isSeat : seat ∈ seats kind shares) (several : 1 < shares.length) (text : String) :
    (seat.1.longestText text : Collective Float String).Waits :=
  (selectExtreme_waits connects isSeat several .greatest _ _).bind _

theorem objectIfAny_waits (connects : kind.Connects shares.length) {seat : ProcessGroup × ω}
    (isSeat : seat ∈ seats kind shares) (several : 1 < shares.length) (objection : Option String)
    (text : String → String) (cause : String → Error) :
    (seat.1.objectIfAny objection text cause : Collective Float Unit).Waits :=
  (anyTrue_waits connects isSeat several _).bind _

end ProcessGroup

end FieldSurvey
