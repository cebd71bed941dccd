import FieldSurvey.Engine.Call
import FieldSurvey.Session.Step
import FieldSurvey.Snapshot

/-!
Sessions: the processes of a group, each with an engine and its share of the domains, go through
steps together. A domain that is given to several processes is one and the same for all of them.
-/

namespace FieldSurvey

namespace ProcessGroup

/-- The views that all processes have of a group. -/
def views (kind : GroupKind) (size : Nat) : List ProcessGroup :=
  (List.range size).map fun rank => ⟨kind, rank, size⟩

end ProcessGroup

/-- A process in a session: its engine, the places of its domains in the common store, and what it
was answered in each step so far. -/
structure Participant where
  engine : Engine
  domains : List Nat
  answers : List (Option Answer)

/-- A session: all domains, and the processes. -/
structure Session where
  store : List Domain
  participants : List Participant

abbrev StepReport := ProcessReport Answer

namespace Participant

def dataset (store : List Domain) (participant : Participant) : Dataset :=
  participant.domains.filterMap fun place => store[place]?

def argument (participant : Participant) : StepArgument → Answer
  | .given value => .value value
  | .answerOf step => ((participant.answers[step]?).bind id).getD (.value .null)
  | .perProcess values => .value (values[participant.engine.group.rank]?.getD .null)

def bound (participant : Participant) (signature : Signature) (arguments : List StepArgument) :
    Except Error Engine.Bound :=
  signature.bind ⟨arguments.map participant.argument, []⟩

def evaluate (store : List Domain) (name : Value) (arguments : Arguments StepArgument)
    (participant : Participant) : Collective Float Answer :=
  participant.engine.evaluate (participant.dataset store) name
    ⟨arguments.positional.map participant.argument,
      arguments.named.map fun entry => (entry.1, participant.argument entry.2)⟩

def inquire (store : List Domain) (inquiry : Inquiry) (arguments : List StepArgument)
    (participant : Participant) : Collective Float Answer := do
  let bound ← participant.bound inquiry.signature arguments
  let dataset := participant.dataset store
  let group := participant.engine.group
  let share := dataset.fieldShare (bound.valueOf "field")
  match inquiry with
  | .finiteRange =>
      let (low, high) ← share.finiteRange group
      return .range low high
  | .histogram =>
      let count ← (bound.valueOf "num_bins").toWhole
      let binning ← Binning.ofValues (bound.valueOf "min_val") (bound.valueOf "max_val") count
      return .histogram (← share.histogram group binning)
  | .sum => return .sum (← share.sum group)
  | .topologyKinds =>
      return Engine.ofKinds (← dataset.topologyKinds group (bound.valueOf "topology"))
  | .agreement =>
      let holds ← (bound.valueOf "local").isTrue
      return .value (.truth (← group.anyTrue holds))

/-- The position of an entry of a field in one domain of a process. -/
def locate (store : List Domain) (place : Value) (arguments : List StepArgument)
    (participant : Participant) : Except Error Answer := do
  let domain ← Engine.localDomain place (participant.dataset store)
  let bound ← participant.bound ⟨["field", "index"], 2, []⟩ arguments
  let position ← domain.locateWanted (bound.valueOf "field") (bound.valueOf "index")
  return Engine.ofPosition position

def describe (store : List Domain) (participant : Participant) : Answer :=
  .value (.list ((participant.dataset store).map Domain.toValue))

def domainCount (participant : Participant) : Answer :=
  .value (.whole participant.domains.length)

/-- Notes what the process was answered in a step. -/
def noting (participant : Participant) (report : StepReport) : Participant :=
  { participant with answers := participant.answers ++ [report.outcome.toOption] }

end Participant

def StepReport.quiet (outcome : Except Error Answer) : StepReport := ⟨[], outcome⟩

namespace Session

/-- The shares of the processes: as they are assigned, or dealt round and round. -/
def shares (count : Nat) (groups : List (Option ProcessGroup))
    (assignment : Option (List (List Int))) : Except Error (List (List Nat)) :=
  let places := List.range count
  match assignment with
  | some lists => (List.range groups.length).mapM fun (rank : Nat) => do
      let own ← entryAt lists rank
      own.mapM (entryAt places)
  | none => groups.mapM fun group => do
      match group with
      | some group => return dealt (← group.size?) (← group.rank?) places
      | none => return places

def start (description : Value) (settings : Option Value) (groups : List (Option ProcessGroup))
    (assignment : Option (List (List Int))) : Except Error Session := do
  let store ← Dataset.ofValue description
  let settings ←
    match settings with
    | some given => Settings.ofMapping given
    | none => pure Settings.default
  let shares ← shares store.length groups assignment
  let engines ← groups.mapM fun group => Engine.start group settings
  return ⟨store, List.zipWith (fun engine share => ⟨engine, share, []⟩) engines shares⟩

/-- What one process does by itself in a step, in turn: the store, the process and the outcome
afterwards. -/
abbrev OwnStep := Nat → List Domain → Participant → List Domain × Participant × Except Error Answer

/-- Lets the processes do something by themselves, one after the other. -/
def inTurn (step : OwnStep) : Nat → List Domain → List Participant →
    List Domain × List Participant × List StepReport
  | _, store, [] => (store, [], [])
  | rank, store, participant :: rest =>
      let (store, changed, outcome) := step rank store participant
      let (store, others, reports) := inTurn step (rank + 1) store rest
      (store, changed :: others, .quiet outcome :: reports)

def lookOwn (look : Participant → Except Error Answer) : OwnStep := fun _ store participant =>
  (store, participant, look participant)

/-- Replaces the domains of a process by ones read back from their descriptions, its own from then
on. -/
def reloadOwn : OwnStep := fun _ store participant =>
  match (participant.dataset store).mapM fun domain => Domain.ofValue domain.toValue with
  | .ok domains =>
      (store ++ domains,
        { participant with domains := (List.range domains.length).map (store.length + ·) },
        .ok (.value .null))
  | .error cause => (store, participant, .error cause)

/-- Adds a domain to one process; all answer how many they have. -/
def addOwn (chosen : Int) (description : Value) : OwnStep := fun rank store participant =>
  if (rank : Int) = chosen then
    match Domain.ofValue description with
    | .ok domain =>
        let extended := { participant with domains := participant.domains ++ [store.length] }
        (store ++ [domain], extended, .ok extended.domainCount)
    | .error cause => (store, participant, .error cause)
  else (store, participant, .ok participant.domainCount)

/-- The place of an entry in a list, negative ones counted from the end. -/
def placeIn {β : Type} (entries : List β) (place : Int) : Except Error Nat :=
  entryAt (List.range entries.length) place

/-- Takes a domain from one process; all answer how many they have. -/
def dropOwn (chosen : Int) (place : Int) : OwnStep := fun rank store participant =>
  if (rank : Int) = chosen then
    match placeIn participant.domains place with
    | .ok index =>
        let reduced := { participant with domains := participant.domains.eraseIdx index }
        (store, reduced, .ok reduced.domainCount)
    | .error cause => (store, participant, .error cause)
  else (store, participant, .ok participant.domainCount)

def changeOwn (chosen : Int) (place : Int) (change : DomainChange) : OwnStep :=
  fun rank store participant =>
    if (rank : Int) = chosen then
      let changed : Except Error (List Domain) := do
        let index ← entryAt participant.domains place
        let domain ← entryAt store index
        return store.set index (← change.apply domain)
      match changed with
      | .ok store => (store, participant, .ok (.value .null))
      | .error cause => (store, participant, .error cause)
    else (store, participant, .ok (.value .null))

/-- Takes a step: the session afterwards, and a report of each process. -/
def advance (session : Session) (step : SessionStep) : Session × List StepReport :=
  let store := session.store
  let together (program : Participant → Collective Float Answer) :
      List Domain × List Participant × List StepReport :=
    (store, session.participants, Collective.run (session.participants.map program))
  let turn (own : OwnStep) : List Domain × List Participant × List StepReport :=
    inTurn own 0 store session.participants
  let (store, participants, reports) :=
    match step with
    | .evaluate name arguments => together (Participant.evaluate store name arguments)
    | .inquire inquiry arguments => together (Participant.inquire store inquiry arguments)
    | .locate place arguments => turn (lookOwn (Participant.locate store place arguments))
    | .describe => turn (lookOwn fun participant => .ok (participant.describe store))
    | .reload => turn reloadOwn
    | .addDomain rank description => turn (addOwn rank description)
    | .dropDomain rank place => turn (dropOwn rank place)
    | .change rank place change => turn (changeOwn rank place change)
  (⟨store, List.zipWith Participant.noting participants reports⟩, reports)

/-- Takes steps one after the other. -/
def run (session : Session) : List SessionStep → List (List StepReport)
  | [] => []
  | step :: rest =>
      let (next, reports) := session.advance step
      reports :: next.run rest

end Session

end FieldSurvey
