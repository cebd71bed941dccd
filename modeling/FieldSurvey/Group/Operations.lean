import FieldSurvey.Group.Collective
import FieldSurvey.Kernel.Extremum
import FieldSurvey.Packed.Reader
import FieldSurvey.Packed.Writer
import FieldSurvey.Value.Comparison

/-!
The operations of a process group, as seen by one of its processes. A group of one needs no
exchange; otherwise every operation is exactly one exchange, either gathering all contributions and
reducing them locally or letting a message-passing library reduce them.
-/

namespace FieldSurvey

/-- How the processes of a group reach each other. In an unspecified group they do not. -/
inductive GroupKind where
  | alone
  | lockstep
  | messagePassing
  | unspecified
  deriving DecidableEq, Repr

/-- A process's view of its group. -/
structure ProcessGroup where
  kind : GroupKind
  rank : Nat
  size : Nat
  deriving DecidableEq, Repr

def expected {α β : Type} (read : Payload α → Option β) (received : Payload α) : Except Error β :=
  match read received with
  | some content => .ok content
  | none => .error .wrongType

namespace Payload

variable {α : Type}

def real? : Payload α → Option α
  | real number => some number
  | _ => none

def whole? : Payload α → Option Int
  | whole number => some number
  | _ => none

def truth? : Payload α → Option Bool
  | truth holds => some holds
  | _ => none

def counts? : Payload α → Option (List Int)
  | counts numbers => some numbers
  | _ => none

def candidate? : Payload α → Option (α × Bool)
  | candidate number present => some (number, present)
  | _ => none

def place? : Payload α → Option (Position α × Int)
  | place position domain => some (position, domain)
  | _ => none

def value? : Payload α → Option Value
  | value content => some content
  | _ => none

def bytes? : Payload α → Option Bytes
  | value (.bytes content) => some content
  | _ => none

end Payload

/-- Goes through submissions in the order of the ranks: the first present one leads until a later
one beats it. -/
def selectFrom {α : Type} [Scalar α] (extreme : Extreme) :
    Nat → Option (α × Nat) → List (α × Bool) → Option (α × Nat)
  | _, best, [] => best
  | rank, best, (candidate, present) :: rest =>
      let next :=
        if !present then best
        else
          match best with
          | none => some (candidate, rank)
          | some (leading, leader) =>
              if extreme.beats candidate leading then some (candidate, rank)
              else some (leading, leader)
      selectFrom extreme (rank + 1) next rest

/-- The best of the submissions that are present and the lowest rank that made it. -/
def select {α : Type} [Scalar α] (extreme : Extreme) (submissions : List (α × Bool)) :
    Option (α × Nat) :=
  selectFrom extreme 0 none submissions

namespace ProcessGroup

variable {α β : Type} [Scalar α]

/-- The rank of the process; an unspecified group gives none. -/
def rank? (group : ProcessGroup) : Except Error Nat :=
  match group.kind with
  | .unspecified => .error .notImplemented
  | _ => .ok group.rank

/-- The size of the group; an unspecified group has none. -/
def size? (group : ProcessGroup) : Except Error Nat :=
  match group.kind with
  | .unspecified => .error .notImplemented
  | _ => .ok group.size

def gather (group : ProcessGroup) (offer : Payload α) : Collective α (List (Payload α)) :=
  match group.kind with
  | .alone => .ofExcept (.ok [offer])
  | .lockstep => .gather offer
  | .messagePassing => .gather offer
  | .unspecified => .fail .notImplemented

/-- The reduction of received contributions, as the process with its own one gets it. -/
def reduced (group : ProcessGroup) (reduction : Reduction) (own : Payload α)
    (received : List (Payload α)) : Except Error (Payload α) :=
  match group.kind with
  | .messagePassing => do
      let result ← reduceInOrder reduction received
      own.delivered result
  | _ => combine reduction received

def reduce (group : ProcessGroup) (reduction : Reduction) (offer : Payload α) :
    Collective α (Payload α) := do
  let received ← group.gather offer
  Collective.ofExcept (group.reduced reduction offer received)

/-- The reduction that a value names; only a message-passing library knows before the exchange that
there is none of that name. -/
def reduceNamed (group : ProcessGroup) (name : Value) (offer : Payload α) :
    Collective α (Payload α) :=
  match group.kind with
  | .messagePassing =>
      if name.isKey then do
        let reduction ← Collective.ofExcept (Reduction.ofValue name)
        group.reduce reduction offer
      else .fail .wrongType
  | _ => do
      let received ← group.gather offer
      let reduction ← Collective.ofExcept (Reduction.ofValue name)
      Collective.ofExcept (group.reduced reduction offer received)

def reduceReal (group : ProcessGroup) (reduction : Reduction) (number : α) : Collective α α := do
  let reduced ← group.reduce reduction (.real number)
  Collective.ofExcept (expected Payload.real? reduced)

def sumWhole (group : ProcessGroup) (number : Int) : Collective α Int := do
  let reduced ← group.reduce .sum (.whole number)
  Collective.ofExcept (expected Payload.whole? reduced)

def sumCounts (group : ProcessGroup) (numbers : List Int) : Collective α (List Int) := do
  let reduced ← group.reduce .sum (.counts numbers)
  Collective.ofExcept (expected Payload.counts? reduced)

def anyTrue (group : ProcessGroup) (holds : Bool) : Collective α Bool := do
  let reduced ← group.reduce .any (.truth holds)
  Collective.ofExcept (expected Payload.truth? reduced)

/-- The best of the numbers that are present and the lowest rank that submitted it. -/
def selectExtreme (group : ProcessGroup) (extreme : Extreme) (number : α) (present : Bool) :
    Collective α (Option (α × Nat)) := do
  let received ← group.gather (.candidate number present)
  let submissions ← Collective.ofExcept (received.mapM (expected Payload.candidate?))
  return select extreme submissions

/-- What one process hands to all. The others hand in nothing; a root outside the group is refused
before any exchange. -/
def broadcast (group : ProcessGroup) (root : Int) (offer : Except Error (Payload α))
    (read : Payload α → Except Error β) : Collective α β := do
  let size ← Collective.ofExcept group.size?
  if 0 ≤ root ∧ root < size then
    let own ← Collective.ofExcept
      (if (group.rank : Int) = root then offer else .ok (.value .null))
    let received ← group.gather own
    match received[root.toNat]? with
    | some content => Collective.ofExcept (read content)
    | none => .fail .badSubscript
  else .fail (.rootOutside (toString root) size)

/-- A value from one process for all. It travels packed, except in a group of one. -/
def broadcastValue (group : ProcessGroup) (content : Value) (root : Int) : Collective α Value :=
  match group.kind with
  | .alone => group.broadcast root (.ok (.value content)) (expected Payload.value?)
  | _ =>
      group.broadcast root (do return .value (.bytes (← pack content)))
        (fun received => do unpack (← expected Payload.bytes? received))

/-- Whether a root given by any value is a process of the group. A group of one has only its own. -/
def isRoot (group : ProcessGroup) (root : Value) : Except Error Bool := do
  match group.kind with
  | .alone => root.equals (.whole 0)
  | _ =>
      let isAtLeastZero ← root.holds .atLeast (.whole 0)
      let size ← group.size?
      if isAtLeastZero then root.holds .less (.whole size) else return false

/-- A value for all from the process that a root given by any value names. A root that lies among
the ranks and is no place in a list is only found out after the exchange. -/
def broadcastFrom (group : ProcessGroup) (content root : Value) : Collective α Value := do
  let isRoot ← Collective.ofExcept (group.isRoot root)
  let size ← Collective.ofExcept group.size?
  if !isRoot then .fail (.rootOutside root.putInto size)
  else if group.kind = .alone then return content
  else
    match root.toPlace with
    | .ok place => group.broadcastValue content place
    | .error cause =>
        let isOwn ← Collective.ofExcept (root.equals (.whole group.rank))
        let own ← Collective.ofExcept (if isOwn then Value.bytes <$> pack content else .ok .null)
        let _ ← group.gather (.value own)
        .fail cause

/-- A position and a domain number from one process for all. The number has to fit 64 bits, except
in a group of one. -/
def broadcastPlace (group : ProcessGroup) (content : Except Error (Option (Position α × Int)))
    (root : Nat) : Collective α (Position α × Int) :=
  let offer : Except Error (Payload α) := do
    match ← content with
    | some (position, domain) =>
        if group.kind ≠ .alone then
          let _ ← packWhole domain
        return .place position domain
    | none => return .value .null
  group.broadcast root offer (expected Payload.place?)

end ProcessGroup

end FieldSurvey
