import Mathlib.Algebra.Ring.Int.Defs
import FieldSurvey.Proofs.Group.Deciding

/-!
Programs that each process of a group runs on its own share. A step that all processes can take, and
an exchange in which all take part, turn one such program into the program that follows.
-/

namespace FieldSurvey

namespace ProcessGroup

open Collective

variable {α β δ ω : Type} {kind : GroupKind} {shares : List ω}

theorem together_finish (outcome : Except Error β) :
    together kind (fun _ _ => (Collective.finish outcome : Collective α β)) shares =
      shares.map fun _ => outcome :=
  outcomes_finish outcome

theorem together_own_step (own : ω → Except Error δ) (found : ω → δ)
    (finds : ∀ share ∈ shares, own share = .ok (found share))
    (next : ProcessGroup → ω → δ → Collective α β) :
    together kind (fun group share => Collective.ofExcept (own share) >>= next group share) shares =
      together kind (fun group share => next group share (found share)) shares :=
  outcomes_own_steps (seats kind shares) (fun seat => own seat.2) (fun seat => found seat.2)
    (fun seat => next seat.1 seat.2) fun seat isSeat => finds seat.2 (share_mem_of_mem_seats isSeat)

theorem together_log (level : Int) (source : LogSource) (text : ProcessGroup → ω → String)
    (next : ProcessGroup → ω → Collective α β) :
    together kind (fun group share =>
        Collective.log level source (text group share) >>= fun _ => next group share) shares =
      together kind next shares :=
  outcomes_congr _ _ _ fun _ => standing_log_bind _ _ _ _

section Exchanges

variable (connects : kind.Connects shares.length)

include connects

/-- A process knows its rank without asking anybody. -/
theorem together_rank (next : ProcessGroup → ω → Nat → Collective α β) :
    together kind (fun group share => Collective.ofExcept group.rank? >>= next group share) shares =
      together kind (fun group share => next group share group.rank) shares :=
  outcomes_own_steps (seats kind shares) (fun seat => seat.1.rank?) (fun seat => seat.1.rank)
    (fun seat => next seat.1 seat.2) fun _ isSeat => rank?_of_mem_seats connects isSeat

variable [Scalar α]

theorem together_reduceReal {reduction : Reduction} {join : α → α → α}
    (joins : reduction.onReals? = some join) (number : ω → α)
    (next : ProcessGroup → ω → α → Collective α β) :
    together kind (fun group share =>
        group.reduceReal reduction (number share) >>= next group share) shares =
      together kind (fun group share =>
        next group share (joinReals join (shares.map number))) shares := by
  have reduced := reduceReal_all connects joins (fun seat => number seat.2)
    fun seat => next seat.1 seat.2
  rw [map_seats_share kind number] at reduced
  exact reduced

theorem together_sumWhole (number : ω → Int) (next : ProcessGroup → ω → Int → Collective α β) :
    together kind (fun group share => group.sumWhole (number share) >>= next group share) shares =
      together kind (fun group share => next group share (shares.map number).sum) shares := by
  have summed := sumWhole_all connects (fun seat => number seat.2) fun seat => next seat.1 seat.2
  rw [map_seats_share kind number] at summed
  exact summed

/-- Counts are added as long as all processes count as many things. -/
theorem together_sumCounts {size : Nat} (counts : ω → List Int)
    (even : ∀ share ∈ shares, (counts share).length = size)
    (next : ProcessGroup → ω → List Int → Collective α β) :
    together kind (fun group share => group.sumCounts (counts share) >>= next group share) shares =
      together kind (fun group share =>
        next group share (countTotals size (shares.map counts))) shares := by
  have summed := sumCounts_all connects (fun seat => counts seat.2)
    (fun seat isSeat => even seat.2 (share_mem_of_mem_seats isSeat)) fun seat => next seat.1 seat.2
  rw [map_seats_share kind counts] at summed
  exact summed

end Exchanges

end ProcessGroup

end FieldSurvey
