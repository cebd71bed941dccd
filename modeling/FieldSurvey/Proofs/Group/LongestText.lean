import FieldSurvey.Proofs.Binary.Doubles
import FieldSurvey.Proofs.Group.Telling
import FieldSurvey.Proofs.Kernel.Extremum
import FieldSurvey.Proofs.Packed.Limits

/-!
The text that a group tells when each process puts one forward. Texts are weighed by their length as
a double, and so the empty one wins only where there is no other. The process that wins packs its
text, and it can do so as long as the text is not too long for that.
-/

namespace FieldSurvey

namespace Bid

variable {texts : List String}

/-- The text that wins a vote on the longest one. -/
def longest (texts : List String) : String :=
  match winner? (texts.map ofText) with
  | some (_, bid) => bid.content.spelled
  | none => ""

theorem key_ofText (text : String) :
    ∃ rank : Int, Extreme.greatest.key (ofText text).weight = -rank ∧
      RoundsTo (text.length * stepsPerUnit) rank := by
  obtain ⟨rank, hasRank, rounds⟩ := orderRank?_ofNat text.length
  refine ⟨rank, ?_, rounds⟩
  show -(orderRank? (Float.ofInt text.length)).getD 0 = -rank
  rw [hasRank]
  rfl

/-- A text that is not empty weighs more than the empty one, however lengths are rounded. -/
theorem key_ofText_lt {text : String} (notEmpty : text ≠ "") :
    Extreme.greatest.key (ofText text).weight < Extreme.greatest.key (ofText "").weight := by
  obtain ⟨rank, hasKey, rounds⟩ := key_ofText text
  obtain ⟨lowest, hasLowest, roundsToZero⟩ := key_ofText ""
  have isZero : lowest = 0 := by
    rw [String.length_empty, Nat.cast_zero, zero_mul] at roundsToZero
    exact roundsToZero.unique RoundsTo.zero
  have isPositive : 1 ≤ rank := by
    have hasLetters : 1 ≤ text.length :=
      Nat.one_le_iff_ne_zero.mpr (mt String.length_eq_zero_iff.mp notEmpty)
    apply rounds.one_le
    exact_mod_cast Nat.mul_pos hasLetters stepsPerUnit_pos
  rw [hasKey, hasLowest, isZero]
  omega

/-- Where all bid, with weights that are defined, nobody bids more than the winner of the vote. -/
theorem winner?_heaviest {bids : List Bid} (present : ∀ bid ∈ bids, bid.present = true)
    (defined : ∀ bid ∈ bids, Scalar.isUndefined bid.weight = false) {rank : Nat} {winner : Bid}
    (won : winner? bids = some (rank, winner)) :
    ∀ bid ∈ bids, Extreme.greatest.key winner.weight ≤ Extreme.greatest.key bid.weight := by
  obtain ⟨⟨value, chosen⟩, atRank⟩ := winner?_eq_some.mp won
  have submitted := submission_of_select chosen
  rw [List.getElem?_map, atRank] at submitted
  have isWeight : winner.weight = value := congrArg Prod.fst (Option.some.inj submitted)
  have isDefined : ∀ candidate : Float × Nat,
      some candidate ∈ presentSubmissions 0 (bids.map submission) →
      Scalar.isUndefined candidate.1 = false := by
    intro candidate isCandidate
    obtain ⟨place, isThere⟩ := List.getElem?_of_mem isCandidate
    obtain ⟨bid, isBid, sameWeight, _⟩ := getElem?_presentBids.mp isThere
    rw [← sameWeight]
    exact defined bid (List.mem_of_getElem? isBid)
  have keyed : ∀ candidate old : Float × Nat,
      some candidate ∈ presentSubmissions 0 (bids.map submission) →
      some old ∈ presentSubmissions 0 (bids.map submission) →
      Extreme.greatest.beats candidate.1 old.1 =
        decide (Extreme.greatest.key candidate.1 < Extreme.greatest.key old.1) := by
    intro candidate old isCandidate isOld
    exact Extreme.greatest.beats_eq (isDefined candidate isCandidate) (isDefined old isOld)
  rw [select_eq_leader] at chosen
  obtain ⟨_, isBest⟩ := leader_isFirstBest _ keyed chosen
  intro bid isBid
  obtain ⟨place, isThere⟩ := List.getElem?_of_mem isBid
  rw [isWeight]
  exact isBest.least place (bid.weight, place)
    (getElem?_presentBids.mpr ⟨bid, isThere, rfl, present bid isBid, rfl⟩)

theorem present_of_text {bid : Bid} (isBid : bid ∈ texts.map ofText) : bid.present = true := by
  obtain ⟨text, _, rfl⟩ := List.mem_map.mp isBid
  rfl

theorem defined_of_text {bid : Bid} (isBid : bid ∈ texts.map ofText) :
    Scalar.isUndefined bid.weight = false := by
  obtain ⟨text, _, rfl⟩ := List.mem_map.mp isBid
  obtain ⟨rank, hasRank, _⟩ := orderRank?_ofNat text.length
  exact Extreme.isUndefined_eq_false.mpr ⟨rank, hasRank⟩

/-- The longest of some texts is one of them. -/
theorem winner?_longest (someText : texts ≠ []) :
    ∃ rank, texts[rank]? = some (longest texts) ∧
      winner? (texts.map ofText) = some (rank, ofText (longest texts)) := by
  obtain ⟨rank, bid, _, won⟩ := exists_winner_of_present (List.map_eq_nil_iff.not.mpr someText)
    fun bid isBid => present_of_text isBid
  have atRank := (winner?_eq_some.mp won).2
  rw [List.getElem?_map] at atRank
  obtain ⟨text, isText, rfl⟩ := Option.map_eq_some_iff.mp atRank
  have isLongest : longest texts = text := by
    unfold longest
    rw [won]
    rfl
  rw [isLongest]
  exact ⟨rank, isText, won⟩

theorem longest_mem (someText : texts ≠ []) : longest texts ∈ texts := by
  obtain ⟨_, isText, _⟩ := winner?_longest someText
  exact List.mem_of_getElem? isText

/-- The empty text wins only where there is no other. -/
theorem longest_eq_empty : longest texts = "" ↔ ∀ text ∈ texts, text = "" := by
  by_cases noText : texts = []
  · simp [noText, longest, winner?, select]
  constructor
  · intro isEmpty other isOther
    obtain ⟨_, _, won⟩ := winner?_longest noText
    have heaviest := winner?_heaviest (fun _ => present_of_text) (fun _ => defined_of_text) won _
      (List.mem_map_of_mem isOther)
    rw [isEmpty] at heaviest
    by_contra notEmpty
    exact heaviest.not_gt (key_ofText_lt notEmpty)
  · intro allEmpty
    exact allEmpty _ (longest_mem noText)

end Bid

/-- Whether a text can be told to all processes of a group. Unless there is but one process it is
packed, and texts that are packed may be only so long. -/
def GroupKind.CanTell (kind : GroupKind) (text : String) : Prop :=
  kind = .alone ∨ text.toUTF8.size < 2 ^ 32

theorem GroupKind.handIn_text {kind : GroupKind} {text : String} :
    (∃ payload : Payload Float, kind.handIn (.text text) = .ok payload) ↔ kind.CanTell text := by
  have packs : (∃ payload : Payload Float,
      (do return .value (.bytes (← pack (.text text)))) = Except.ok payload) ↔
        text.toUTF8.size < 2 ^ 32 := by
    refine Iff.trans ?_ (packWithin_eq_ok writingDepth (.text text))
    constructor
    · rintro ⟨payload, handed⟩
      obtain ⟨bytes, packed, _⟩ := bind_eq_ok.mp handed
      exact ⟨bytes, packed⟩
    · rintro ⟨bytes, packed⟩
      refine ⟨.value (.bytes bytes), ?_⟩
      unfold pack
      rw [packed]
      rfl
  cases kind with
  | alone => exact ⟨fun _ => .inl rfl, fun _ => ⟨_, rfl⟩⟩
  | _ => exact packs.trans ⟨.inr, fun canTell => canTell.resolve_left (by simp)⟩

namespace ProcessGroup

variable {β ω : Type} {kind : GroupKind} {shares : List ω} {text : ω → String}

/-- Only the process whose text is told does something by itself: it hands that text in. -/
theorem exists_teller (kind : GroupKind) (someShare : shares ≠ []) (text : ω → String) :
    ∃ teller ∈ seats kind shares, ∀ seat ∈ seats kind shares,
      seat.1.tellStep (Bid.winner? ((shares.map text).map .ofText)) (.ofText (text seat.2)) =
        if seat.1.rank = teller.1.rank then do
          let _ ← (kind.handIn (.text (Bid.longest (shares.map text))) :
            Except Error (Payload Float))
          return ()
        else .ok () := by
  have someText : shares.map text ≠ [] := List.map_eq_nil_iff.not.mpr someShare
  obtain ⟨rank, isTold, won⟩ := Bid.winner?_longest someText
  have ofTeller : ∀ seat ∈ seats kind shares, seat.1.rank = rank →
      text seat.2 = Bid.longest (shares.map text) := by
    intro seat isSeat isTeller
    rw [← isTeller, List.getElem?_map, (of_mem_seats isSeat).2.2] at isTold
    exact Option.some.inj isTold
  have inGroup : rank < (seats kind shares).length := by
    have inTexts := (List.getElem?_eq_some_iff.mp isTold).1
    rw [List.length_map] at inTexts
    rwa [length_seats]
  have tellerRank : ((seats kind shares)[rank]).1.rank = rank := by rw [getElem_seats]
  refine ⟨(seats kind shares)[rank], List.getElem_mem inGroup, ?_⟩
  intro seat isSeat
  rw [tellerRank, won, tellStep_eq_rootOffer isSeat]
  unfold rootOffer
  by_cases isTeller : seat.1.rank = rank
  · rw [if_pos isTeller, if_pos isTeller, ofTeller seat isSeat isTeller]
    rfl
  · rw [if_neg isTeller, if_neg isTeller]
    rfl

theorem tellStep_of_canTell (canTell : kind.CanTell (Bid.longest (shares.map text)))
    {seat : ProcessGroup × ω} (isSeat : seat ∈ seats kind shares) :
    seat.1.tellStep (Bid.winner? ((shares.map text).map .ofText)) (.ofText (text seat.2)) =
      .ok () := by
  have someShare : shares ≠ [] := List.ne_nil_of_mem (share_mem_of_mem_seats isSeat)
  obtain ⟨payload, handed⟩ := GroupKind.handIn_text.mpr canTell
  obtain ⟨teller, _, steps⟩ := exists_teller kind someShare text
  rw [steps seat isSeat, handed]
  split <;> rfl

theorem exists_tellStep_of_cannotTell (someShare : shares ≠ [])
    (cannotTell : ¬ kind.CanTell (Bid.longest (shares.map text))) :
    ∃ seat ∈ seats kind shares, ∃ cause,
      seat.1.tellStep (Bid.winner? ((shares.map text).map .ofText)) (.ofText (text seat.2)) =
        .error cause := by
  obtain ⟨teller, isSeat, steps⟩ := exists_teller kind someShare text
  cases handed : (kind.handIn (.text (Bid.longest (shares.map text))) :
      Except Error (Payload Float)) with
  | ok payload => exact absurd (GroupKind.handIn_text.mp ⟨payload, handed⟩) cannotTell
  | error cause =>
      refine ⟨teller, isSeat, cause, ?_⟩
      rw [steps teller isSeat, if_pos rfl, handed]
      rfl

/-- A text arrives as it was told. -/
theorem toldResult_longest {texts : List String} (someText : texts ≠ []) (untold : Error)
    (told : Value → Except Error β) :
    toldResult kind (texts.map .ofText) untold told = told (.text (Bid.longest texts)) := by
  obtain ⟨_, _, won⟩ := Bid.winner?_longest someText
  have arrives : kind.arrival (Bid.ofText (Bid.longest texts)).content =
      .ok (.text (Bid.longest texts)) := by
    cases kind <;> rfl
  unfold toldResult
  rw [won]
  simp only [arrives, ok_bind]

end ProcessGroup

end FieldSurvey
