import FieldSurvey.Group.Collective

/-!
How the processes of a group end when they run in lock-step. Only where a process stands counts, its
log records do not. One exchange that every process takes part in is one step of the whole group,
and from there on each process goes on with the same contributions in its hands. As soon as one
process has ended, every other one that still waits for an exchange waits for ever.
-/

namespace FieldSurvey

/-- Processes end alike if all of them return one result, or all of them fail for causes of one class
and none is left waiting. -/
def EndAlike {β : Type} (outcomes : List (Except Error β)) : Prop :=
  (∃ result, ∀ outcome ∈ outcomes, outcome = .ok result) ∨
    ∃ category, category ≠ ErrorCategory.deadlock ∧
      ∀ outcome ∈ outcomes, ∃ cause, outcome = .error cause ∧ cause.category = category

namespace Collective

variable {α β γ δ : Type}

namespace Standing

/-- How a process ends that stands here and gets no further exchange. -/
def stalled : Standing α β → Except Error β
  | ended outcome => outcome
  | waiting _ _ => .error .deadlock

def offer? : Standing α β → Option (Payload α)
  | ended _ => none
  | waiting offer _ => some offer

def resumed (received : List (Payload α)) : Standing α β → Collective α β
  | ended outcome => .finish outcome
  | waiting _ resume => resume received

end Standing

/-- Where a process stands once its log records are written. -/
def standing (process : Collective α β) : Standing α β := process.settle.2

/-- How a process ends that gets no further exchange. -/
def stalled (process : Collective α β) : Except Error β := process.standing.stalled

def outcomes (processes : List (Collective α β)) : List (Except Error β) :=
  (run processes).map ProcessReport.outcome

/-- A process that takes part in another exchange before it ends. -/
def Waits (process : Collective α β) : Prop :=
  ∃ offer resume, process.standing = .waiting offer resume

section Standing

@[simp] theorem standing_finish (outcome : Except Error β) :
    (finish outcome : Collective α β).standing = .ended outcome := rfl

@[simp] theorem standing_note (record : LogRecord) (next : Collective α β) :
    (note record next).standing = next.standing := rfl

@[simp] theorem standing_exchange (offer : Payload α)
    (resume : List (Payload α) → Collective α β) :
    (exchange offer resume).standing = .waiting offer resume := rfl

@[simp] theorem liftM_eq_ofExcept (outcome : Except Error β) :
    (liftM outcome : Collective α β) = ofExcept outcome := rfl

@[simp] theorem ofExcept_ok_bind (result : β) (next : β → Collective α γ) :
    (ofExcept (.ok result) >>= next) = next result := rfl

@[simp] theorem ofExcept_error_bind (cause : Error) (next : β → Collective α γ) :
    (ofExcept (.error cause) >>= next) = fail cause := rfl

theorem ofExcept_bind (first : Except Error β) (second : β → Except Error γ) :
    (ofExcept (first >>= second) : Collective α γ) =
      ofExcept first >>= fun result => ofExcept (second result) := by
  cases first <;> rfl

theorem bind_bind (process : Collective α β) (second : β → Collective α γ)
    (third : γ → Collective α δ) :
    (process >>= second) >>= third = process >>= fun result => second result >>= third :=
  bind_assoc process second third

theorem exchange_bind (offer : Payload α) (resume : List (Payload α) → Collective α β)
    (next : β → Collective α γ) :
    (exchange offer resume >>= next) = exchange offer fun received => resume received >>= next := rfl

theorem note_bind (record : LogRecord) (process : Collective α β) (next : β → Collective α γ) :
    (note record process >>= next) = note record (process >>= next) := rfl

@[simp] theorem standing_log_bind (level : Int) (source : LogSource) (text : String)
    (next : Unit → Collective α β) :
    (log level source text >>= next).standing = (next ()).standing := rfl

theorem Waits.bind {process : Collective α β} (waits : process.Waits)
    (next : β → Collective α γ) : (process >>= next).Waits := by
  obtain ⟨offer, resume, stands⟩ := waits
  induction process with
  | finish outcome => cases stands
  | note record later inductionHypothesis =>
      have later_stands : later.standing = .waiting offer resume := stands
      obtain ⟨other, goOn, waiting⟩ := inductionHypothesis later_stands
      rw [note_bind]
      exact ⟨other, goOn, waiting⟩
  | exchange own goOn _ =>
      rw [exchange_bind]
      exact ⟨own, _, standing_exchange own _⟩

theorem Waits.after_log {level : Int} {source : LogSource} {text : String}
    {next : Unit → Collective α β} (waits : (next ()).Waits) :
    (log level source text >>= next).Waits := by
  obtain ⟨offer, resume, stands⟩ := waits
  exact ⟨offer, resume, stands⟩

theorem stranded_outcome (process : Collective α β) :
    process.stranded.outcome = process.stalled := by
  unfold stranded stalled standing
  obtain ⟨records, standing⟩ := process.settle
  cases standing <;> rfl

theorem offer?_eq (process : Collective α β) : process.offer? = process.standing.offer? := by
  unfold offer? standing
  obtain ⟨records, standing⟩ := process.settle
  cases standing <;> rfl

theorem resumed_eq (received : List (Payload α)) (process : Collective α β) :
    resumed received process = process.standing.resumed received := by
  unfold resumed standing
  obtain ⟨records, standing⟩ := process.settle
  cases standing <;> rfl

end Standing

section Rounds

theorem length_runTogether (first : Collective α β) (others : List (Collective α β)) :
    (first.runTogether others).length = others.length + 1 := by
  induction first generalizing others with
  | finish outcome => simp [runTogether]
  | note record next inductionHypothesis =>
      have sameLength := inductionHypothesis others
      unfold runTogether
      split
      · rename_i reports together
        rw [together] at sameLength
        simpa using sameLength
      · rename_i together
        rw [together] at sameLength
        simp at sameLength
  | exchange offer resume inductionHypothesis =>
      unfold runTogether
      split
      · simp
      · rename_i offers gathered
        have sameLength := inductionHypothesis (offer :: offers)
          (others.map (resumed (offer :: offers)))
        simp only
        split
        · rename_i reports together
          rw [together] at sameLength
          simp at sameLength
          simp [sameLength]
        · rename_i together
          rw [together] at sameLength
          simp at sameLength

theorem outcomes_withEarlier (others : List (Collective α β)) (reports : List (ProcessReport β))
    (sameLength : reports.length = others.length) :
    (List.zipWith (fun process later => withEarlier process.settle.1 later) others reports).map
      ProcessReport.outcome = reports.map ProcessReport.outcome := by
  rw [List.map_zipWith]
  induction reports generalizing others with
  | nil => simp
  | cons report later inductionHypothesis =>
      cases others with
      | nil => simp at sameLength
      | cons process rest =>
          have restLength : later.length = rest.length := by simpa using sameLength
          simp only [List.zipWith_cons_cons, List.map_cons]
          rw [inductionHypothesis rest restLength]
          rfl

/-- One round of a whole group, told by where the processes stand. -/
theorem outcomes_cons (first : Collective α β) (others : List (Collective α β)) :
    outcomes (first :: others) =
      match first.standing with
      | .ended outcome => outcome :: others.map stalled
      | .waiting offer _ =>
          match others.mapM offer? with
          | none => .error .deadlock :: others.map stalled
          | some offers => outcomes ((first :: others).map (resumed (offer :: offers))) := by
  have stranded_outcomes : (others.map stranded).map ProcessReport.outcome =
      others.map stalled := by
    rw [List.map_map]
    exact List.map_congr_left fun process _ => stranded_outcome process
  induction first with
  | finish outcome =>
      simp only [outcomes, run, runTogether, List.map_cons, stranded_outcomes, standing_finish]
  | note record next inductionHypothesis =>
      -- A record only stands in front of the report that follows.
      have noRecord : outcomes (note record next :: others) = outcomes (next :: others) := by
        have sameLength := length_runTogether next others
        simp only [outcomes, run, runTogether]
        split
        · rename_i reports together
          rw [together]
          rfl
        · rename_i together
          rw [together] at sameLength
          simp at sameLength
      rw [noRecord, inductionHypothesis, standing_note]
      simp only [List.map_cons, resumed_eq, standing_note]
  | exchange offer resume _ =>
      simp only [standing_exchange]
      cases gathered : others.mapM offer? with
      | none => simp only [outcomes, run, runTogether, gathered, List.map_cons, stranded_outcomes]
      | some offers =>
          have sameLength := length_runTogether (resume (offer :: offers))
            (others.map (resumed (offer :: offers)))
          simp only [outcomes, run, runTogether, gathered, List.map_cons]
          rw [resumed_eq, standing_exchange, Standing.resumed]
          split
          · rename_i report reports together
            rw [together] at sameLength
            rw [together, List.map_cons, List.map_cons, outcomes_withEarlier]
            simpa using sameLength
          · rename_i together
            rw [together] at sameLength
            simp at sameLength

/-- Log records do not change how a group ends: only where its processes stand counts. -/
theorem outcomes_congr (members : List γ) (program other : γ → Collective α β)
    (alike : ∀ member, (program member).standing = (other member).standing) :
    outcomes (members.map program) = outcomes (members.map other) := by
  cases members with
  | nil => rfl
  | cons first rest =>
      have sameStalled : stalled ∘ program = stalled ∘ other := by
        funext member
        simp only [Function.comp_apply, stalled, alike]
      have sameOffers : offer? ∘ program = offer? ∘ other := by
        funext member
        simp only [Function.comp_apply, offer?_eq, alike]
      have sameResumed (received : List (Payload α)) :
          resumed received ∘ program = resumed received ∘ other := by
        funext member
        simp only [Function.comp_apply, resumed_eq, alike]
      rw [List.map_cons, List.map_cons, outcomes_cons, outcomes_cons]
      simp only [← List.map_cons, List.map_map, List.mapM_map, sameStalled, sameOffers,
        sameResumed, alike]

theorem outcomes_exchange (members : List γ) (offer : γ → Payload α)
    (resume : γ → List (Payload α) → Collective α β) :
    outcomes (members.map fun member => exchange (offer member) (resume member)) =
      outcomes (members.map fun member => resume member (members.map offer)) := by
  cases members with
  | nil => rfl
  | cons first rest =>
      have gathered : (rest.map fun member => exchange (offer member) (resume member)).mapM offer? =
          some (rest.map offer) := by
        rw [List.mapM_map]
        induction rest with
        | nil => rfl
        | cons next later inductionHypothesis =>
            rw [List.mapM_cons, inductionHypothesis]
            rfl
      rw [List.map_cons, outcomes_cons, standing_exchange]
      simp only [gathered]
      simp only [List.map_cons, List.map_map, resumed_eq, standing_exchange, Standing.resumed]
      rfl

/-- As soon as one process has ended, no other one gets a further exchange. -/
theorem outcomes_of_ended (processes : List (Collective α β))
    (ended : ∃ process ∈ processes, ∃ outcome, process.standing = .ended outcome) :
    outcomes processes = processes.map stalled := by
  obtain ⟨process, isMember, outcome, stands⟩ := ended
  cases processes with
  | nil => cases isMember
  | cons first others =>
      rw [outcomes_cons, List.map_cons]
      cases first_stands : first.standing with
      | ended own => simp only [stalled, first_stands, Standing.stalled]
      | waiting offer resume =>
          have isOther : process ∈ others := by
            cases List.mem_cons.mp isMember with
            | inl isFirst =>
                rw [isFirst, first_stands] at stands
                cases stands
            | inr isOther => exact isOther
          have noOffers : others.mapM offer? = none := by
            have noOffer : process.offer? = none := by
              rw [offer?_eq, stands]
              rfl
            clear isMember
            induction others with
            | nil => cases isOther
            | cons next rest inductionHypothesis =>
                rw [List.mapM_cons]
                cases List.mem_cons.mp isOther with
                | inl isNext => rw [← isNext, noOffer]; rfl
                | inr isLater =>
                    rw [inductionHypothesis isLater]
                    cases next.offer? <;> rfl
          simp only [noOffers, stalled, first_stands, Standing.stalled]

end Rounds

section OwnSteps

/-- How a process ends whose own step ended so while another one's failed: with its own failure, or
left waiting at the next exchange. -/
def leftWaiting : Except Error δ → Except Error β
  | .ok _ => .error .deadlock
  | .error cause => .error cause

theorem outcomes_own_steps (members : List γ) (own : γ → Except Error δ) (result : γ → δ)
    (next : γ → δ → Collective α β)
    (succeeded : ∀ member ∈ members, own member = .ok (result member)) :
    outcomes (members.map fun member => ofExcept (own member) >>= next member) =
      outcomes (members.map fun member => next member (result member)) := by
  have same : ∀ member ∈ members, (ofExcept (own member) >>= next member) =
      next member (result member) := by
    intro member isMember
    rw [succeeded member isMember, ofExcept_ok_bind]
  rw [List.map_congr_left same]

/-- Where some process's own step fails, nothing more is exchanged. -/
theorem outcomes_failed_step (members : List γ) (own : γ → Except Error δ)
    (next : γ → δ → Collective α β)
    (waits : 1 < members.length → ∀ member ∈ members, ∀ result, (next member result).Waits)
    (failed : ∃ member ∈ members, ∃ cause, own member = .error cause) :
    outcomes (members.map fun member => ofExcept (own member) >>= next member) =
      members.map fun member => leftWaiting (own member) := by
  obtain ⟨failing, isMember, cause, fails⟩ := failed
  have hasEnded : ∃ process ∈ members.map fun member => ofExcept (own member) >>= next member,
      ∃ outcome, process.standing = .ended outcome := by
    refine ⟨_, List.mem_map_of_mem isMember, .error cause, ?_⟩
    simp only [fails, ofExcept_error_bind]
    rfl
  rw [outcomes_of_ended _ hasEnded, List.map_map]
  apply List.map_congr_left
  intro member memberIn
  simp only [Function.comp_apply]
  cases owned : own member with
  | error reason => rfl
  | ok result =>
      have several : 1 < members.length := by
        match members with
        | [] => cases isMember
        | [only] =>
            have same : failing = member := by
              rw [List.mem_singleton.mp isMember, List.mem_singleton.mp memberIn]
            rw [same, owned] at fails
            cases fails
        | _ :: _ :: _ => simp
      obtain ⟨offer, resume, stands⟩ := waits several member memberIn result
      rw [ofExcept_ok_bind, stalled, stands]
      rfl

theorem endAlike_of_same {outcomes : List (Except Error β)} (result : Except Error β)
    (same : ∀ outcome ∈ outcomes, outcome = result)
    (noDeadlock : ∀ cause, result = .error cause → cause.category ≠ .deadlock) :
    EndAlike outcomes := by
  cases result with
  | ok answer => exact .inl ⟨answer, same⟩
  | error cause =>
      refine .inr ⟨cause.category, noDeadlock cause rfl, ?_⟩
      intro outcome isMember
      exact ⟨cause, same outcome isMember, rfl⟩

theorem not_endAlike_of_deadlock {outcomes : List (Except Error β)}
    (strands : .error .deadlock ∈ outcomes) : ¬ EndAlike outcomes := by
  rintro (⟨result, allReturn⟩ | ⟨category, notDeadlock, allFail⟩)
  · cases allReturn _ strands
  · obtain ⟨cause, fails, sameCategory⟩ := allFail _ strands
    cases fails
    exact notDeadlock sameCategory.symm

theorem endAlike_leftWaiting_iff {own : List (Except Error δ)}
    (failed : ∃ outcome ∈ own, ∃ cause, outcome = .error cause) :
    EndAlike (own.map (leftWaiting (β := β))) ↔ EndAlike own := by
  obtain ⟨failing, isMember, cause, fails⟩ := failed
  constructor
  · rintro (⟨result, allReturn⟩ | ⟨category, notDeadlock, allFail⟩)
    · have returns := allReturn _ (List.mem_map_of_mem isMember)
      rw [fails] at returns
      cases returns
    · refine .inr ⟨category, notDeadlock, ?_⟩
      intro outcome memberIn
      obtain ⟨reason, ends, sameCategory⟩ := allFail _ (List.mem_map_of_mem memberIn)
      cases outcome with
      | error other =>
          cases ends
          exact ⟨reason, rfl, sameCategory⟩
      | ok result =>
          cases ends
          exact absurd sameCategory.symm notDeadlock
  · rintro (⟨result, allReturn⟩ | ⟨category, notDeadlock, allFail⟩)
    · have returns := allReturn failing isMember
      rw [fails] at returns
      cases returns
    · refine .inr ⟨category, notDeadlock, ?_⟩
      intro outcome memberIn
      obtain ⟨first, isOwn, rfl⟩ := List.mem_map.mp memberIn
      obtain ⟨reason, ends, sameCategory⟩ := allFail first isOwn
      exact ⟨reason, by rw [ends]; rfl, sameCategory⟩

end OwnSteps

end Collective

end FieldSurvey
