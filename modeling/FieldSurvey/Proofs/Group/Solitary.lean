import FieldSurvey.Proofs.Group.Choosing
import FieldSurvey.Proofs.Packed.Relay

/-!
A process that is alone in its group. Each exchange gives it back what it handed in, so its program
comes down to a computation of its own. Every operation has the same outcome in a connected group of
any kind, except that what the process tells everybody is packed and read again where the group would
exchange it.
-/

namespace FieldSurvey

/-- What comes of a value that a process tells a group of which it is the only one. -/
def GroupKind.relay (kind : GroupKind) (content : Value) : Except Error Value :=
  match kind with
  | .alone => .ok content
  | _ => content.relayed

/-- Whatever is relayed of a value that arrives as it was sent is the value itself. -/
theorem GroupKind.relay_bind {β : Type} {kind : GroupKind} {content : Value}
    (arrives : content.Arrives) (next : Value → Except Error β) :
    kind.relay content >>= next = kind.relay content >>= fun _ => next content := by
  have packedAlong : content.relayed >>= next = content.relayed >>= fun _ => next content := by
    rw [Value.relayed_eq_of_arrives arrives]
    cases pack content <;> rfl
  cases kind with
  | alone => rfl
  | lockstep => exact packedAlong
  | messagePassing => exact packedAlong
  | unspecified => exact packedAlong

namespace Collective

variable {α β γ : Type}

/-- How a process ends whose exchanges are with itself only. -/
def solo : Collective α β → Except Error β
  | finish outcome => outcome
  | note _ next => next.solo
  | exchange offer resume => (resume [offer]).solo

@[simp] theorem solo_ofExcept (outcome : Except Error β) :
    (ofExcept outcome : Collective α β).solo = outcome := rfl

@[simp] theorem solo_pure (result : β) : (pure result : Collective α β).solo = .ok result := rfl

@[simp] theorem solo_fail (cause : Error) : (fail cause : Collective α β).solo = .error cause := rfl

@[simp] theorem solo_log (level : Int) (source : LogSource) (text : String) :
    (log level source text : Collective α Unit).solo = .ok () := rfl

@[simp] theorem solo_bind (process : Collective α β) (next : β → Collective α γ) :
    (process >>= next).solo = process.solo >>= fun result => (next result).solo := by
  induction process with
  | finish outcome => cases outcome <;> rfl
  | note record later inductionHypothesis => exact inductionHypothesis
  | exchange offer resume inductionHypothesis => exact inductionHypothesis [offer]

theorem outcomes_solo (process : Collective α β) : outcomes [process] = [process.solo] := by
  induction process with
  | finish outcome => rfl
  | note record next inductionHypothesis =>
      rw [solo, ← inductionHypothesis]
      exact outcomes_congr [()] (fun _ => note record next) (fun _ => next) fun _ => rfl
  | exchange offer resume inductionHypothesis =>
      rw [solo, ← inductionHypothesis]
      exact outcomes_exchange [()] (fun _ => offer) fun _ => resume

end Collective

namespace ProcessGroup

open Collective

variable {α β ω : Type}

/-- A group of one process. -/
def single (kind : GroupKind) : ProcessGroup := ⟨kind, 0, 1⟩

theorem together_single (kind : GroupKind) (program : ProcessGroup → ω → Collective α β)
    (share : ω) : together kind program [share] = [(program (single kind) share).solo] :=
  outcomes_solo _

section Operations

variable [Scalar α] {kind : GroupKind} (connects : kind.Connects 1)

include connects

theorem solo_rank? : (single kind).rank? = .ok 0 := by
  cases kind with
  | unspecified => exact connects.elim
  | _ => rfl

omit [Scalar α] in
theorem solo_gather (offer : Payload α) : ((single kind).gather offer).solo = .ok [offer] := by
  cases kind with
  | unspecified => exact connects.elim
  | _ => rfl

theorem solo_reduce (reduction : Reduction) (offer : Payload α) :
    ((single kind).reduce reduction offer).solo = (single kind).reduced reduction offer [offer] := by
  simp only [reduce, solo_bind, solo_gather connects]
  rfl

theorem solo_reduceReal {reduction : Reduction} {join : α → α → α}
    (joins : reduction.onReals? = some join) (number : α) :
    ((single kind).reduceReal reduction number).solo = .ok number := by
  have reduced := reduced_reals joins (single kind) number number []
  simp only [List.map_cons, List.map_nil] at reduced
  simp only [reduceReal, solo_bind, solo_reduce connects, reduced]
  rfl

theorem solo_sumWhole (number : Int) :
    ((single kind).sumWhole number : Collective α Int).solo = .ok number := by
  have reduced := reduced_wholes (α := α) (single kind) number number []
  simp only [List.map_cons, List.map_nil] at reduced
  simp only [sumWhole, solo_bind, solo_reduce connects, reduced]
  rfl

theorem solo_sumCounts (counts : List Int) :
    ((single kind).sumCounts counts : Collective α (List Int)).solo = .ok counts := by
  have reduced := reduced_counts (α := α) (single kind) counts counts [] rfl rfl (by simp)
  simp only [List.map_cons, List.map_nil, countTotals_single] at reduced
  simp only [sumCounts, solo_bind, solo_reduce connects, reduced]
  rfl

theorem solo_anyTrue (holds : Bool) :
    ((single kind).anyTrue holds : Collective α Bool).solo = .ok holds := by
  have reduced := reduced_truths (α := α) (single kind) holds holds []
  simp only [List.map_cons, List.map_nil, List.any_cons, List.any_nil, Bool.or_false, id] at reduced
  simp only [anyTrue, solo_bind, solo_reduce connects, reduced]
  rfl

theorem solo_vote (first second : Bool) :
    ((single kind).vote first second : Collective α Vote).solo = .ok (.of first second) := by
  simp only [vote, solo_bind, solo_anyTrue connects]
  rfl

theorem solo_selectExtreme (extreme : Extreme) (number : α) (present : Bool) :
    ((single kind).selectExtreme extreme number present).solo =
      .ok (if present then some (number, 0) else none) := by
  simp only [selectExtreme, solo_bind, solo_gather connects]
  cases present <;> rfl

omit [Scalar α] in
/-- What the process tells everybody it is told itself. -/
theorem solo_broadcast (offer : Except Error (Payload α)) (read : Payload α → Except Error β) :
    ((single kind).broadcast 0 offer read).solo = offer >>= read := by
  have isSeat : (single kind, ()) ∈ seats kind [()] := List.mem_singleton.mpr rfl
  have isRoot : 0 < [()].length := Nat.one_pos
  have asRoot : (single kind).broadcast 0 offer read =
      Collective.ofExcept offer >>= fun own => (single kind).gather own >>= fun received =>
        Collective.ofExcept (readFrom 0 read received) :=
    broadcast_eq connects isSeat isRoot offer read
  rw [asRoot]
  simp only [solo_bind, solo_ofExcept, solo_gather connects]
  rfl

omit [Scalar α] in
theorem solo_broadcastValue (content : Value) :
    ((single kind).broadcastValue content 0 : Collective α Value).solo = kind.relay content := by
  have packedAlong : (pack content >>= fun bytes =>
        (.ok (.value (.bytes bytes)) : Except Error (Payload α))) >>=
        (fun received => expected Payload.bytes? received >>= unpack) = content.relayed := by
    unfold Value.relayed
    cases pack content <;> rfl
  rw [broadcastValue_eq, solo_broadcast connects]
  cases kind with
  | alone => rfl
  | lockstep => exact packedAlong
  | messagePassing => exact packedAlong
  | unspecified => exact connects.elim

theorem solo_broadcastPlace (content : Except Error (Position Float × Int)) :
    ((single kind).broadcastPlace (some <$> content) 0).solo = content >>= fun place =>
      kind.relay (.place place.1 place.2) >>= fun _ => .ok place := by
  rw [broadcastPlace_eq]
  refine (solo_broadcast connects _ _).trans ?_
  cases content with
  | error cause => rfl
  | ok place =>
      obtain ⟨position, domain⟩ := place
      have checkedAlong : (packWhole domain >>= fun _ =>
            (.ok (.place position domain) : Except Error (Payload Float))) >>=
            (fun received => expected Payload.place? received) =
          (Value.place position domain).relayed >>= fun _ => .ok (position, domain) := by
        rw [Value.relayed_place]
        cases packWhole domain <;> rfl
      have isContent : (some <$> (.ok (position, domain) : Except Error (Position Float × Int))) =
          .ok (some (position, domain)) := rfl
      rw [isContent, ok_bind]
      cases kind with
      | alone => rfl
      | lockstep => exact checkedAlong
      | messagePassing => exact checkedAlong
      | unspecified => exact connects.elim

theorem solo_longestText (text : String) :
    ((single kind).longestText text : Collective α String).solo =
      kind.relay (.text text) >>= fun _ => .ok text := by
  have told := solo_broadcastValue (α := α) connects (.text text)
  simp only [longestText, solo_bind, solo_selectExtreme connects, if_true, ok_bind]
  refine (congrArg (· >>= fun shared => .ok shared.spelled) told).trans ?_
  exact GroupKind.relay_bind (Value.text_arrives text) _

theorem solo_objectIfAny (objection : Option String) (text : String → String)
    (cause : String → Error) :
    ((single kind).objectIfAny objection text cause : Collective α Unit).solo =
      match objection with
      | none => .ok ()
      | some shared => kind.relay (.text shared) >>= fun _ => .error (cause shared) := by
  simp only [objectIfAny, solo_bind, solo_anyTrue connects, ok_bind]
  cases objection with
  | none => rfl
  | some shared =>
      simp only [Option.isSome_some, if_true, Option.getD_some, solo_bind,
        solo_longestText connects, complain, solo_log, solo_fail, ok_bind]
      cases kind.relay (.text shared) <;> rfl

end Operations

end ProcessGroup

end FieldSurvey
