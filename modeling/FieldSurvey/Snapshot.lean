import FieldSurvey.Mesh.Document
import FieldSurvey.Packed.Reader
import FieldSurvey.Packed.Writer

/-!
Snapshots of datasets as packed bytes, and dealing the domains of a dataset to the processes of a
group: one after the other, round and round. Dealing before or after writing a snapshot gives the
same shares.
-/

namespace FieldSurvey

/-- The items that fall to one of `size` receivers when they are dealt round and round. -/
def dealt {β : Type} (size rank : Int) (items : List β) : List β :=
  (items.zipIdx.filter fun item => (item.2 : Int) % size == rank).map Prod.fst

namespace Snapshot

/-- What a snapshot calls itself. -/
def formatName : String := "meshquery-snapshot"

def version : Int := 1

def toValue (dataset : Dataset) : Value :=
  .record [("format", .text formatName), ("version", .whole version),
    ("domains", .list (dataset.map Domain.toValue))]

def write (dataset : Dataset) : Except Error Bytes := pack (toValue dataset)

def descriptions (content : Value) : Except Error (List Value) := do
  let entries ←
    match content with
    | .map entries => pure entries
    | _ => throw .notASnapshot
  let format := (Value.find? "format" entries).getD .null
  if !(← format.equals (.text formatName)) then throw .notASnapshot
  let found := (Value.find? "version" entries).getD .null
  if !(← found.equals (.whole version)) then throw (.snapshotVersion found.putInto)
  let domains ← content.item "domains"
  domains.items?

/-- The domains in a snapshot that fall to one process; only these are read. -/
def read (bytes : Bytes) (rank size : Int) : Except Error Dataset := do
  if size ≤ 0 ∨ rank < 0 ∨ size ≤ rank then throw (.rankOutside (toString rank) (toString size))
  let descriptions ← descriptions (← unpack bytes)
  (dealt size rank descriptions).mapM Domain.ofValue

/-- Whether a rank is one of a group, both given by values of any kind. -/
def isMember (rank size : Value) : Except Error Bool := do
  if ← size.holds .atMost (.whole 0) then return false
  if ← rank.holds .atLeast (.whole 0) then rank.holds .less size else return false

/-- The items that fall to one of the receivers, given by values of any kind: a size that is no
whole number leaves remainders that are none. -/
def dealtTo {β : Type} (size rank : Value) (items : List β) : Except Error (List β) := do
  let marked ← items.zipIdx.mapM fun item => do
    let remainder ← (Value.whole item.2).operate .remainder size
    return (item.1, ← remainder.equals rank)
  return (marked.filter Prod.snd).map Prod.fst

/-- The domains in a snapshot that fall to a process given by values of any kind. -/
def readFor (bytes : Bytes) (rank size : Value) : Except Error Dataset := do
  if !(← isMember rank size) then throw (.rankOutside rank.putInto size.putInto)
  let descriptions ← descriptions (← unpack bytes)
  let own ← dealtTo size rank descriptions
  own.mapM Domain.ofValue

end Snapshot

end FieldSurvey
