import FieldSurvey.Proofs.Group.Lockstep
import FieldSurvey.Session.Run

/-!
The operations of a process group, told for the whole group at once. Every process of a connected
group that enters an operation leaves it with the same answer: all contributions in the order of the
ranks, or what they come to.
-/

-- The sums of whole numbers start from the built-in zero.
attribute [local instance (1100)] Zero.ofOfNat0

namespace FieldSurvey

/-- Whether processes of this kind reach each other in a group of this size. -/
def GroupKind.Connects (kind : GroupKind) (size : Nat) : Prop :=
  match kind with
  | .alone => size = 1
  | .lockstep => 0 < size
  | .messagePassing => 0 < size
  | .unspecified => False

/-- How a reduction joins two real numbers, if it is one of numbers. -/
def Reduction.onReals? {α : Type} [Scalar α] : Reduction → Option (α → α → α)
  | .sum => some (· + ·)
  | .least => some Scalar.minimum
  | .greatest => some Scalar.maximum
  | .any => none
  | .all => none

def joinReals {α : Type} [Scalar α] (join : α → α → α) : List α → α
  | [] => Scalar.zero
  | first :: rest => rest.foldl join first

instance (kind : GroupKind) (size : Nat) : Decidable (kind.Connects size) := by
  cases kind <;> unfold GroupKind.Connects <;> infer_instance

theorem GroupKind.Connects.pos {kind : GroupKind} {size : Nat} (connects : kind.Connects size) :
    0 < size := by
  cases kind with
  | alone => exact Nat.lt_of_lt_of_eq Nat.one_pos (Eq.symm connects)
  | lockstep => exact connects
  | messagePassing => exact connects
  | unspecified => exact connects.elim

namespace ProcessGroup

open Collective

variable {α β δ ω : Type}

/-- The processes of a group in the order of their ranks: how each sees the group, and its share of
what is spread over them. -/
def seats (kind : GroupKind) (shares : List ω) : List (ProcessGroup × ω) :=
  (views kind shares.length).zip shares

/-- How the processes of a group end when all of them run a program, each on its share. -/
def together (kind : GroupKind) (program : ProcessGroup → ω → Collective α β) (shares : List ω) :
    List (Except Error β) :=
  outcomes ((seats kind shares).map fun seat => program seat.1 seat.2)

section Seats

variable {kind : GroupKind} {shares : List ω}

@[simp] theorem length_seats : (seats kind shares).length = shares.length := by
  simp [seats, views]

theorem seats_shares (kind : GroupKind) (shares : List ω) :
    (seats kind shares).map Prod.snd = shares := by
  unfold seats
  rw [List.map_snd_zip]
  simp [views]

theorem getElem_seats (rank : Nat) (inGroup : rank < (seats kind shares).length) :
    (seats kind shares)[rank] =
      (⟨kind, rank, shares.length⟩, shares.get ⟨rank, by simpa using inGroup⟩) := by
  simp [seats, views]

theorem of_mem_seats {seat : ProcessGroup × ω} (isSeat : seat ∈ seats kind shares) :
    seat.1.kind = kind ∧ seat.1.size = shares.length ∧ shares[seat.1.rank]? = some seat.2 := by
  obtain ⟨rank, inGroup, rfl⟩ := List.mem_iff_getElem.mp isSeat
  have inShares : rank < shares.length := by simpa using inGroup
  rw [getElem_seats]
  exact ⟨rfl, rfl, List.getElem?_eq_getElem inShares⟩

theorem share_mem_of_mem_seats {seat : ProcessGroup × ω} (isSeat : seat ∈ seats kind shares) :
    seat.2 ∈ shares := by
  obtain ⟨_, _, held⟩ := of_mem_seats isSeat
  exact List.mem_of_getElem? held

theorem rank_lt_of_mem_seats {seat : ProcessGroup × ω} (isSeat : seat ∈ seats kind shares) :
    seat.1.rank < shares.length := by
  obtain ⟨_, _, held⟩ := of_mem_seats isSeat
  exact (List.getElem?_eq_some_iff.mp held).1

theorem getElem?_seats_of_mem {seat : ProcessGroup × ω} (isSeat : seat ∈ seats kind shares) :
    (seats kind shares)[seat.1.rank]? = some seat := by
  obtain ⟨rank, inGroup, rfl⟩ := List.mem_iff_getElem.mp isSeat
  have sameRank : ((seats kind shares)[rank]).1.rank = rank := by rw [getElem_seats]
  rw [sameRank]
  exact List.getElem?_eq_getElem inGroup

theorem eq_of_rank_eq {seat other : ProcessGroup × ω} (isSeat : seat ∈ seats kind shares)
    (isOther : other ∈ seats kind shares) (sameRank : seat.1.rank = other.1.rank) :
    seat = other := by
  have atSeat := getElem?_seats_of_mem isSeat
  rw [sameRank, getElem?_seats_of_mem isOther] at atSeat
  exact (Option.some.inj atSeat).symm

theorem size?_of_mem_seats (connects : kind.Connects shares.length) {seat : ProcessGroup × ω}
    (isSeat : seat ∈ seats kind shares) : seat.1.size? = .ok shares.length := by
  obtain ⟨sameKind, sameSize, _⟩ := of_mem_seats isSeat
  unfold size?
  rw [sameKind, sameSize]
  cases kind with
  | unspecified => exact connects.elim
  | _ => rfl

theorem exists_seat (kind : GroupKind) {share : ω} (isShare : share ∈ shares) :
    ∃ seat ∈ seats kind shares, seat.2 = share := by
  rw [← seats_shares kind shares] at isShare
  obtain ⟨seat, isSeat, same⟩ := List.mem_map.mp isShare
  exact ⟨seat, isSeat, same⟩

/-- Shares that are changed before they are spread may as well be changed by the processes. -/
theorem together_map {ζ : Type} (kind : GroupKind) (program : ProcessGroup → ω → Collective α β)
    (change : ζ → ω) (shares : List ζ) :
    together kind program (shares.map change) =
      together kind (fun group share => program group (change share)) shares := by
  unfold together seats
  rw [List.length_map, List.zip_map_right, List.map_map]
  rfl

theorem outcomes_finish (outcome : Except Error β) :
    outcomes ((seats kind shares).map fun _ => (Collective.finish outcome : Collective α β)) =
      shares.map fun _ => outcome := by
  cases found : (seats kind shares).map fun _ => (Collective.finish outcome : Collective α β) with
  | nil =>
      have noSeats : seats kind shares = [] := List.map_eq_nil_iff.mp found
      have noShares : shares = [] := by
        rw [← seats_shares kind shares, noSeats]
        rfl
      rw [noShares]
      rfl
  | cons first rest =>
      have hasEnded : ∃ process ∈ (seats kind shares).map fun _ =>
          (Collective.finish outcome : Collective α β),
          ∃ ending, process.standing = .ended ending := by
        have isFirst : first ∈ (seats kind shares).map fun _ =>
            (Collective.finish outcome : Collective α β) := by
          rw [found]
          exact List.mem_cons_self
        obtain ⟨seat, _, same⟩ := List.mem_map.mp isFirst
        exact ⟨first, isFirst, outcome, by rw [← same]; rfl⟩
      rw [← found, outcomes_of_ended _ hasEnded, List.map_map]
      conv => right; rw [← seats_shares kind shares, List.map_map]
      rfl

end Seats

section Operations

variable {kind : GroupKind} {shares : List ω}

/-- After gathering, every process holds the contributions of all. -/
theorem gather_all (connects : kind.Connects shares.length) (offer : ProcessGroup × ω → Payload α)
    (next : ProcessGroup × ω → List (Payload α) → Collective α β) :
    outcomes ((seats kind shares).map fun seat => seat.1.gather (offer seat) >>= next seat) =
      outcomes ((seats kind shares).map fun seat =>
        next seat ((seats kind shares).map offer)) := by
  have exchanged (isExchange : ∀ seat ∈ seats kind shares,
      seat.1.gather (offer seat) = Collective.gather (offer seat)) :
      outcomes ((seats kind shares).map fun seat => seat.1.gather (offer seat) >>= next seat) =
        outcomes ((seats kind shares).map fun seat =>
          next seat ((seats kind shares).map offer)) := by
    rw [← outcomes_exchange]
    congr 1
    apply List.map_congr_left
    intro seat isSeat
    rw [isExchange seat isSeat]
    rfl
  cases kind with
  | alone =>
      match shares, connects with
      | [share], _ => rfl
  | lockstep =>
      apply exchanged
      intro seat isSeat
      simp only [ProcessGroup.gather, (of_mem_seats isSeat).1]
  | messagePassing =>
      apply exchanged
      intro seat isSeat
      simp only [ProcessGroup.gather, (of_mem_seats isSeat).1]
  | unspecified => exact connects.elim

theorem gather_waits (connects : kind.Connects shares.length) {seat : ProcessGroup × ω}
    (isSeat : seat ∈ seats kind shares) (several : 1 < shares.length) (offer : Payload α) :
    (seat.1.gather offer).Waits := by
  have sameKind := (of_mem_seats isSeat).1
  unfold ProcessGroup.gather
  rw [sameKind]
  cases kind with
  | alone =>
      have single : shares.length = 1 := connects
      omega
  | lockstep => exact ⟨offer, _, rfl⟩
  | messagePassing => exact ⟨offer, _, rfl⟩
  | unspecified => exact connects.elim

end Operations

section Reductions

theorem foldFirst_map {ι κ : Type} (wrap : ι → κ) (join : ι → ι → ι)
    (step : κ → κ → Except Error κ)
    (joins : ∀ left right, step (wrap left) (wrap right) = .ok (wrap (join left right)))
    (first : ι) (rest : List ι) :
    foldFirst step ((first :: rest).map wrap) = .ok (wrap (rest.foldl join first)) := by
  simp only [List.map_cons, foldFirst]
  induction rest generalizing first with
  | nil => rfl
  | cons next later inductionHypothesis =>
      rw [List.map_cons, List.foldlM_cons, joins]
      exact inductionHypothesis (join first next)

variable [Scalar α] {kind : GroupKind} {shares : List ω}

theorem reduced_reals {reduction : Reduction} {join : α → α → α}
    (joins : reduction.onReals? = some join) (group : ProcessGroup) (own first : α)
    (rest : List α) :
    group.reduced reduction (.real own) ((first :: rest).map .real) =
      .ok (.real (rest.foldl join first)) := by
  have folded (step : Payload α → Payload α → Except Error (Payload α))
      (isJoin : ∀ left right, step (.real left) (.real right) = .ok (.real (join left right))) :
      foldFirst step ((first :: rest).map .real) = .ok (.real (rest.foldl join first)) :=
    foldFirst_map .real join step isJoin first rest
  have combined : combine reduction ((first :: rest).map .real) =
      .ok (.real (rest.foldl join first)) := by
    cases reduction <;> cases joins <;> exact folded _ fun _ _ => rfl
  have inOrder : reduceInOrder reduction ((first :: rest).map .real) =
      .ok (.real (rest.foldl join first)) := by
    cases reduction <;> cases joins <;> exact folded _ fun _ _ => rfl
  unfold reduced
  split
  · rw [inOrder]
    rfl
  · exact combined

theorem reduced_wholes (group : ProcessGroup) (own first : Int) (rest : List Int) :
    group.reduced .sum (.whole own : Payload α) ((first :: rest).map .whole) =
      .ok (.whole (rest.foldl (· + ·) first)) := by
  have folded : foldFirst Payload.add ((first :: rest).map (Payload.whole (α := α))) =
      .ok (.whole (rest.foldl (· + ·) first)) :=
    foldFirst_map .whole (· + ·) Payload.add (fun _ _ => rfl) first rest
  unfold reduced
  split
  · have inOrder : reduceInOrder .sum ((first :: rest).map (Payload.whole (α := α))) =
        .ok (.whole (rest.foldl (· + ·) first)) := folded
    rw [inOrder]
    rfl
  · exact folded

theorem foldl_or_eq_any (start : Bool) (truths : List Bool) :
    truths.foldl (· || ·) start = (start || truths.any id) := by
  induction truths generalizing start with
  | nil => simp
  | cons holds later inductionHypothesis =>
      rw [List.foldl_cons, inductionHypothesis, List.any_cons, Bool.or_assoc]
      rfl

theorem combine_truths (truths : List Bool) :
    combine .any (truths.map (Payload.truth (α := α))) = .ok (.truth (truths.any id)) := by
  induction truths with
  | nil => rfl
  | cons holds later inductionHypothesis =>
      cases holds with
      | true => rfl
      | false => exact inductionHypothesis

theorem reduced_truths (group : ProcessGroup) (own first : Bool) (rest : List Bool) :
    group.reduced .any (.truth own : Payload α) ((first :: rest).map Payload.truth) =
      .ok (.truth ((first :: rest).any id)) := by
  have inOrder : reduceInOrder .any ((first :: rest).map (Payload.truth (α := α))) =
      .ok (.truth (rest.foldl (· || ·) first)) := by
    refine foldFirst_map Payload.truth (· || ·) _ ?_ first rest
    intro left right
    cases left <;> rfl
  unfold reduced
  split
  · rw [inOrder, foldl_or_eq_any]
    rfl
  · exact combine_truths (first :: rest)

theorem reduce_all (connects : kind.Connects shares.length) (reduction : Reduction)
    (offer answer : ProcessGroup × ω → Payload α)
    (reduces : ∀ seat ∈ seats kind shares,
      seat.1.reduced reduction (offer seat) ((seats kind shares).map offer) = .ok (answer seat))
    (next : ProcessGroup × ω → Payload α → Collective α β) :
    outcomes ((seats kind shares).map fun seat =>
        seat.1.reduce reduction (offer seat) >>= next seat) =
      outcomes ((seats kind shares).map fun seat => next seat (answer seat)) := by
  simp only [reduce, bind_bind]
  rw [gather_all connects offer fun seat received =>
    ofExcept (seat.1.reduced reduction (offer seat) received) >>= next seat]
  exact outcomes_own_steps _ _ answer next reduces

theorem reduceReal_all (connects : kind.Connects shares.length) {reduction : Reduction}
    {join : α → α → α} (joins : reduction.onReals? = some join)
    (number : ProcessGroup × ω → α) (next : ProcessGroup × ω → α → Collective α β) :
    outcomes ((seats kind shares).map fun seat =>
        seat.1.reduceReal reduction (number seat) >>= next seat) =
      outcomes ((seats kind shares).map fun seat =>
        next seat (joinReals join ((seats kind shares).map number))) := by
  simp only [reduceReal, bind_bind]
  have reduces : ∀ seat ∈ seats kind shares,
      seat.1.reduced reduction (.real (number seat))
        ((seats kind shares).map fun seat => .real (number seat)) =
      .ok (.real (joinReals join ((seats kind shares).map number))) := by
    intro seat isSeat
    have asReals : ((seats kind shares).map fun seat => Payload.real (number seat)) =
        ((seats kind shares).map number).map .real := by rw [List.map_map]; rfl
    rw [asReals]
    cases numbers : (seats kind shares).map number with
    | nil => simp_all
    | cons first rest => exact reduced_reals joins seat.1 _ first rest
  rw [reduce_all connects reduction _ _ reduces]
  rfl

theorem foldl_add_eq_sum (start : Int) (numbers : List Int) :
    numbers.foldl (· + ·) start = start + numbers.sum := by
  induction numbers generalizing start with
  | nil => simp
  | cons number rest inductionHypothesis =>
      rw [List.foldl_cons, inductionHypothesis, List.sum_cons]
      omega

theorem sumWhole_all (connects : kind.Connects shares.length)
    (number : ProcessGroup × ω → Int) (next : ProcessGroup × ω → Int → Collective α β) :
    outcomes ((seats kind shares).map fun seat =>
        seat.1.sumWhole (number seat) >>= next seat) =
      outcomes ((seats kind shares).map fun seat =>
        next seat ((seats kind shares).map number).sum) := by
  simp only [sumWhole, bind_bind]
  have reduces : ∀ seat ∈ seats kind shares,
      seat.1.reduced .sum (.whole (number seat) : Payload α)
        ((seats kind shares).map fun seat => .whole (number seat)) =
      .ok (.whole ((seats kind shares).map number).sum) := by
    intro seat isSeat
    have asWholes : ((seats kind shares).map fun seat => (.whole (number seat) : Payload α)) =
        ((seats kind shares).map number).map .whole := by rw [List.map_map]; rfl
    rw [asWholes]
    cases numbers : (seats kind shares).map number with
    | nil => simp_all
    | cons first rest => rw [reduced_wholes, foldl_add_eq_sum, List.sum_cons]
  rw [reduce_all connects .sum _ _ reduces]
  rfl

theorem anyTrue_all (connects : kind.Connects shares.length) (holds : ProcessGroup × ω → Bool)
    (next : ProcessGroup × ω → Bool → Collective α β) :
    outcomes ((seats kind shares).map fun seat =>
        seat.1.anyTrue (holds seat) >>= next seat) =
      outcomes ((seats kind shares).map fun seat => next seat ((seats kind shares).any holds)) := by
  simp only [anyTrue, bind_bind]
  have reduces : ∀ seat ∈ seats kind shares,
      seat.1.reduced .any (.truth (holds seat) : Payload α)
        ((seats kind shares).map fun seat => .truth (holds seat)) =
      .ok (.truth ((seats kind shares).any holds)) := by
    intro seat isSeat
    have asTruths : ((seats kind shares).map fun seat => (.truth (holds seat) : Payload α)) =
        ((seats kind shares).map holds).map Payload.truth := by rw [List.map_map]; rfl
    have sameAny : (seats kind shares).any holds = ((seats kind shares).map holds).any id := by
      rw [List.any_map]
      rfl
    rw [asTruths, sameAny]
    cases truths : (seats kind shares).map holds with
    | nil => simp_all
    | cons first rest => exact reduced_truths seat.1 _ first rest
  rw [reduce_all connects .any _ _ reduces]
  rfl

def countTotals (size : Nat) (counts : List (List Int)) : List Int :=
  (List.range size).map fun place => (counts.map fun own => own.getD place 0).sum

theorem countTotals_single (counts : List Int) : countTotals counts.length [counts] = counts := by
  apply List.ext_getElem
  · simp [countTotals]
  · intro place _ inCounts
    simp [countTotals, inCounts]

theorem countTotals_zipWith {size : Nat} {first next : List Int} (firstLength : first.length = size)
    (nextLength : next.length = size) (later : List (List Int)) :
    countTotals size (List.zipWith (· + ·) first next :: later) =
      countTotals size (first :: next :: later) := by
  unfold countTotals
  apply List.map_congr_left
  intro place inRange
  have inSize : place < size := List.mem_range.mp inRange
  have inFirst : place < first.length := by omega
  have inNext : place < next.length := by omega
  simp only [List.map_cons, List.sum_cons, List.getD_eq_getElem?_getD, List.getElem?_zipWith,
    List.getElem?_eq_getElem inFirst, List.getElem?_eq_getElem inNext, Option.getD_some]
  omega

omit [Scalar α] in
theorem foldFirst_counts {size : Nat} (step : Payload α → Payload α → Except Error (Payload α))
    (adds : ∀ left right : List Int, left.length = right.length →
      step (.counts left) (.counts right) = .ok (.counts (List.zipWith (· + ·) left right)))
    (first : List Int) (rest : List (List Int)) (firstLength : first.length = size)
    (restLength : ∀ counts ∈ rest, counts.length = size) :
    foldFirst step ((first :: rest).map .counts) =
      .ok (.counts (countTotals size (first :: rest))) := by
  simp only [List.map_cons, foldFirst]
  induction rest generalizing first with
  | nil =>
      rw [← firstLength, countTotals_single]
      rfl
  | cons next later inductionHypothesis =>
      have nextLength := restLength next List.mem_cons_self
      have sumLength : (List.zipWith (· + ·) first next).length = size := by
        rw [List.length_zipWith]
        omega
      rw [List.map_cons, List.foldlM_cons, adds first next (by omega)]
      rw [← countTotals_zipWith firstLength nextLength]
      exact inductionHypothesis _ sumLength fun counts isLater =>
        restLength counts (List.mem_cons_of_mem next isLater)

theorem add_counts (left right : List Int) (sameLength : left.length = right.length) :
    (Payload.counts left : Payload α).add (.counts right) =
      .ok (.counts (List.zipWith (· + ·) left right)) := by
  simp only [Payload.add, addCounts, if_pos sameLength]
  rfl

omit [Scalar α] in
theorem delivered_counts (own totals : List Int) (sameLength : own.length = totals.length) :
    (Payload.counts own : Payload α).delivered (.counts totals) = .ok (.counts totals) := by
  match totals, sameLength with
  | [], noCounts => simp [Payload.delivered, noCounts]
  | [total], single =>
      simp only [Payload.delivered, single, List.length_singleton]
      rfl
  | _ :: _ :: _, sameLength => simp [Payload.delivered, sameLength]

theorem reduced_counts {size : Nat} (group : ProcessGroup) (own first : List Int)
    (rest : List (List Int)) (ownLength : own.length = size) (firstLength : first.length = size)
    (restLength : ∀ counts ∈ rest, counts.length = size) :
    group.reduced .sum (.counts own : Payload α) ((first :: rest).map .counts) =
      .ok (.counts (countTotals size (first :: rest))) := by
  have folded : foldFirst Payload.add ((first :: rest).map (Payload.counts (α := α))) =
      .ok (.counts (countTotals size (first :: rest))) :=
    foldFirst_counts Payload.add add_counts first rest firstLength restLength
  have totalLength : (countTotals size (first :: rest)).length = size := by simp [countTotals]
  unfold reduced
  split
  · have inOrder : reduceInOrder .sum ((first :: rest).map (Payload.counts (α := α))) =
        .ok (.counts (countTotals size (first :: rest))) := folded
    rw [inOrder]
    exact delivered_counts own _ (by omega)
  · exact folded

theorem sumCounts_all (connects : kind.Connects shares.length) {size : Nat}
    (counts : ProcessGroup × ω → List Int)
    (even : ∀ seat ∈ seats kind shares, (counts seat).length = size)
    (next : ProcessGroup × ω → List Int → Collective α β) :
    outcomes ((seats kind shares).map fun seat =>
        seat.1.sumCounts (counts seat) >>= next seat) =
      outcomes ((seats kind shares).map fun seat =>
        next seat (countTotals size ((seats kind shares).map counts))) := by
  simp only [sumCounts, bind_bind]
  have reduces : ∀ seat ∈ seats kind shares,
      seat.1.reduced .sum (.counts (counts seat) : Payload α)
        ((seats kind shares).map fun seat => .counts (counts seat)) =
      .ok (.counts (countTotals size ((seats kind shares).map counts))) := by
    intro seat isSeat
    have asCounts : ((seats kind shares).map fun seat => (.counts (counts seat) : Payload α)) =
        ((seats kind shares).map counts).map .counts := by rw [List.map_map]; rfl
    have allEven : ∀ own ∈ (seats kind shares).map counts, own.length = size := by
      intro own isOwn
      obtain ⟨other, isOther, rfl⟩ := List.mem_map.mp isOwn
      exact even other isOther
    rw [asCounts]
    cases all : (seats kind shares).map counts with
    | nil => simp_all
    | cons first rest =>
        rw [all] at allEven
        exact reduced_counts seat.1 _ first rest (even seat isSeat)
          (allEven first List.mem_cons_self)
          fun own isLater => allEven own (List.mem_cons_of_mem first isLater)
  rw [reduce_all connects .sum _ _ reduces]
  rfl

theorem reduce_waits (connects : kind.Connects shares.length) {seat : ProcessGroup × ω}
    (isSeat : seat ∈ seats kind shares) (several : 1 < shares.length) (reduction : Reduction)
    (offer : Payload α) : (seat.1.reduce reduction offer).Waits :=
  (gather_waits connects isSeat several offer).bind _

theorem reduceReal_waits (connects : kind.Connects shares.length) {seat : ProcessGroup × ω}
    (isSeat : seat ∈ seats kind shares) (several : 1 < shares.length) (reduction : Reduction)
    (number : α) : (seat.1.reduceReal reduction number).Waits :=
  (reduce_waits connects isSeat several reduction _).bind _

theorem sumWhole_waits (connects : kind.Connects shares.length) {seat : ProcessGroup × ω}
    (isSeat : seat ∈ seats kind shares) (several : 1 < shares.length) (number : Int) :
    (seat.1.sumWhole number : Collective α Int).Waits :=
  (reduce_waits connects isSeat several .sum _).bind _

theorem anyTrue_waits (connects : kind.Connects shares.length) {seat : ProcessGroup × ω}
    (isSeat : seat ∈ seats kind shares) (several : 1 < shares.length) (holds : Bool) :
    (seat.1.anyTrue holds : Collective α Bool).Waits :=
  (reduce_waits connects isSeat several .any _).bind _

theorem sumCounts_waits (connects : kind.Connects shares.length) {seat : ProcessGroup × ω}
    (isSeat : seat ∈ seats kind shares) (several : 1 < shares.length) (counts : List Int) :
    (seat.1.sumCounts counts : Collective α (List Int)).Waits :=
  (reduce_waits connects isSeat several .sum _).bind _

end Reductions

end ProcessGroup

end FieldSurvey
