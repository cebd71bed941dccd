import FieldSurvey.Group.Payload
import FieldSurvey.Logging.Record

/-!
Programs of one process that take part in exchanges, and their lock-step execution. In each round
every process that has not ended hands in one contribution and receives those of all; a process
that waits for one that has already ended waits for ever.
-/

namespace FieldSurvey

/-- A program of one process: it ends, writes a log record, or takes part in an exchange and goes on
with what all processes handed in, in the order of their ranks. -/
inductive Collective (α : Type) (β : Type) where
  | finish (outcome : Except Error β)
  | note (record : LogRecord) (next : Collective α β)
  | exchange (offer : Payload α) (resume : List (Payload α) → Collective α β)

namespace Collective

variable {α β γ δ : Type}

def bind (first : Collective α β) (second : β → Collective α γ) : Collective α γ :=
  match first with
  | finish (.ok result) => second result
  | finish (.error cause) => .finish (.error cause)
  | note record next => .note record (next.bind second)
  | exchange offer resume => .exchange offer fun received => (resume received).bind second

instance : Monad (Collective α) where
  pure result := .finish (.ok result)
  bind := bind

theorem bind_finish (process : Collective α β) :
    process.bind (fun result => .finish (.ok result)) = process := by
  induction process with
  | finish outcome => cases outcome <;> rfl
  | note record next inductionHypothesis => simp [bind, inductionHypothesis]
  | exchange offer resume inductionHypothesis => simp [bind, inductionHypothesis]

theorem bind_assoc (process : Collective α β) (second : β → Collective α γ)
    (third : γ → Collective α δ) :
    (process.bind second).bind third = process.bind fun result => (second result).bind third := by
  induction process with
  | finish outcome => cases outcome <;> rfl
  | note record next inductionHypothesis => simp [bind, inductionHypothesis]
  | exchange offer resume inductionHypothesis => simp [bind, inductionHypothesis]

instance : LawfulMonad (Collective α) :=
  LawfulMonad.mk' _
    bind_finish
    (fun _ _ => rfl)
    bind_assoc

def ofExcept (outcome : Except Error β) : Collective α β := .finish outcome

instance : MonadLift (Except Error) (Collective α) where
  monadLift := ofExcept

def fail (cause : Error) : Collective α β := .finish (.error cause)

def log (level : Int) (source : LogSource) (text : String) : Collective α Unit :=
  .note ⟨level, source, text⟩ (.finish (.ok ()))

def gather (offer : Payload α) : Collective α (List (Payload α)) :=
  .exchange offer fun received => .finish (.ok received)

/-- Where a program stands after its next log records: at its end or at an exchange. -/
inductive Standing (α β : Type) where
  | ended (outcome : Except Error β)
  | waiting (offer : Payload α) (resume : List (Payload α) → Collective α β)

def settle : Collective α β → List LogRecord × Standing α β
  | finish outcome => ([], .ended outcome)
  | note record next =>
      let (records, standing) := next.settle
      (record :: records, standing)
  | exchange offer resume => ([], .waiting offer resume)

end Collective

/-- What became of one process: the records it wrote and how it ended. -/
structure ProcessReport (β : Type) where
  records : List LogRecord
  outcome : Except Error β

namespace Collective

variable {α β : Type}

def stranded (process : Collective α β) : ProcessReport β :=
  match process.settle with
  | (records, .ended outcome) => ⟨records, outcome⟩
  | (records, .waiting _ _) => ⟨records, .error .deadlock⟩

def offer? (process : Collective α β) : Option (Payload α) :=
  match process.settle with
  | (_, .waiting offer _) => some offer
  | (_, .ended _) => none

def resumed (received : List (Payload α)) (process : Collective α β) : Collective α β :=
  match process.settle with
  | (_, .waiting _ resume) => resume received
  | (_, .ended outcome) => .finish outcome

def withEarlier (records : List LogRecord) (report : ProcessReport β) : ProcessReport β :=
  { report with records := records ++ report.records }

/-- Runs the first process together with the others, round by round. -/
def runTogether (first : Collective α β) (others : List (Collective α β)) :
    List (ProcessReport β) :=
  match first with
  | finish outcome => ⟨[], outcome⟩ :: others.map stranded
  | note record next =>
      match next.runTogether others with
      | report :: reports => withEarlier [record] report :: reports
      | [] => []
  | exchange offer resume =>
      match others.mapM offer? with
      | none => ⟨[], .error .deadlock⟩ :: others.map stranded
      | some offers =>
          let received := offer :: offers
          match (resume received).runTogether (others.map (resumed received)) with
          | report :: reports =>
              report :: List.zipWith (fun process later => withEarlier process.settle.1 later)
                others reports
          | [] => []

/-- Runs the processes of a group, in the order of their ranks. -/
def run : List (Collective α β) → List (ProcessReport β)
  | [] => []
  | first :: others => first.runTogether others

end Collective

end FieldSurvey
