import FieldSurvey.Kernel.Entries

/-!
The least or greatest entry and the first place where it stands. Among real numbers undefined ones
count as the worst of all, so they are found only where nothing better stands after them. Mixed
entries are compared as the values they are, and only the one that is found has to be a number.
-/

namespace FieldSurvey

/-- Which end of the order is looked for. -/
inductive Extreme where
  | least
  | greatest
  deriving DecidableEq, Repr

namespace Extreme

variable {α : Type} [Scalar α]

def beats : Extreme → α → α → Bool
  | least, candidate, best => Scalar.lt candidate best
  | greatest, candidate, best => Scalar.lt best candidate

def worst : Extreme → α
  | least => Scalar.infinity
  | greatest => Scalar.negativeInfinity

def wholeBeats : Extreme → Int → Int → Bool
  | least, candidate, best => decide (candidate < best)
  | greatest, candidate, best => decide (best < candidate)

def relation : Extreme → Relation
  | least => .less
  | greatest => .greater

def textBeats : Extreme → String → String → Bool
  | least, candidate, best => decide (candidate < best)
  | greatest, candidate, best => decide (best < candidate)

/-- Whether a complex number beats another: by the real parts, then by the imaginary ones, and an
undefined one beats every defined one. -/
def complexBeats (extreme : Extreme) (candidate best : α × α) : Bool :=
  let isUndefined (parts : α × α) : Bool :=
    Scalar.isUndefined parts.1 || Scalar.isUndefined parts.2
  if isUndefined best then false
  else isUndefined candidate || extreme.beats candidate.1 best.1 ||
    (Scalar.eq candidate.1 best.1 && extreme.beats candidate.2 best.2)

end Extreme

/-- Goes on from the best item so far and its place: a later item takes over only if it beats it. -/
def firstBestFrom {β : Type} (beats : β → β → Bool) : Nat → Nat × β → List β → Nat × β
  | _, best, [] => best
  | place, best, item :: rest =>
      firstBestFrom beats (place + 1) (if beats item best.2 then (place, item) else best) rest

def firstBest? {β : Type} (beats : β → β → Bool) : List β → Option (Nat × β)
  | [] => none
  | first :: rest => some (firstBestFrom beats 1 (0, first) rest)

/-- Goes on like `firstBestFrom` where not everything can be compared. -/
def firstBestOfAnyFrom {β : Type} (loses : β → β → Except Error Bool) :
    Nat → Nat × β → List β → Except Error (Nat × β)
  | _, best, [] => .ok best
  | place, best, item :: rest => do
      let next := if ← loses best.2 item then (place, item) else best
      firstBestOfAnyFrom loses (place + 1) next rest

/-- The first best item of a list and its place, given when an item loses to a later one. -/
def firstBestOfAny? {β : Type} (loses : β → β → Except Error Bool) :
    List β → Except Error (Option (Nat × β))
  | [] => .ok none
  | first :: rest => some <$> firstBestOfAnyFrom loses 1 (0, first) rest

namespace Entries

variable {α : Type} [Scalar α]

/-- The extreme entry and the first place where it stands, if any entry is defined. -/
def extremum (extreme : Extreme) : Entries α → Except Error (Option (α × Nat))
  | reals entries =>
      if entries.all Scalar.isUndefined then .ok none
      else
        let ranked := entries.map fun number =>
          if Scalar.isUndefined number then extreme.worst else number
        .ok do
          let (place, _) ← firstBest? extreme.beats ranked
          let number ← entries[place]?
          return (number, place)
  | wholes entries =>
      .ok ((firstBest? extreme.wholeBeats entries).map fun best => (Scalar.ofInt best.2, best.1))
  | complexes entries =>
      .ok ((firstBest? extreme.complexBeats entries).map fun best => (best.2.1, best.1))
  | texts entries =>
      match firstBest? (fun left right => extreme.textBeats left.1 right.1) entries with
      | none => .ok none
      | some (place, entry) => do
          let number ← entry.2
          return some (number, place)
  | loose entries => do
      match ← firstBestOfAny? (fun left right => right.1.holds extreme.relation left.1) entries with
      | none => return none
      | some (place, entry) =>
          let number ← entry.2.number?
          return some (number, place)

def span : List α → Option (α × α)
  | [] => none
  | first :: rest => some (rest.foldl Scalar.minimum first, rest.foldl Scalar.maximum first)

/-- The least and greatest finite entry; only numbers can be finite. -/
def finiteRange : Entries α → Except Error (Option (α × α))
  | reals entries => .ok (span (entries.filter Scalar.isFinite))
  | wholes entries =>
      let best (extreme : Extreme) : Option Int :=
        (firstBest? extreme.wholeBeats entries).map Prod.snd
      .ok do
        let low ← best .least
        let high ← best .greatest
        return (Scalar.ofInt low, Scalar.ofInt high)
  | complexes entries =>
      let finite := entries.filter fun parts => Scalar.isFinite parts.1 && Scalar.isFinite parts.2
      let best (extreme : Extreme) : Option (α × α) :=
        (firstBest? extreme.complexBeats finite).map Prod.snd
      .ok do
        let low ← best .least
        let high ← best .greatest
        return (low.1, high.1)
  | _ => .error .wrongType

end Entries

end FieldSurvey
