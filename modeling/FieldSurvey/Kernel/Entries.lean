import FieldSurvey.Value.Comparison

/-!
The entries of a column as numbers to compute with. Truth values count as 0 and 1; what is neither
a whole nor a real number is kept apart, because each computation treats it in its own way.
-/

namespace FieldSurvey

/-- An entry of a mixed column: nothing, a number, or something that reads as no number. -/
inductive LooseEntry (α : Type) where
  | nothing
  | readable (number : α)
  | unreadable (cause : Error)

/-- Entries of one kind. A text or byte string comes with the number it reads as, and so does an
entry of a mixed column. -/
inductive Entries (α : Type) where
  | reals (entries : List α)
  | wholes (entries : List Int)
  | complexes (entries : List (α × α))
  | texts (entries : List (String × Except Error α))
  | loose (entries : List (Value × LooseEntry α))

def LooseEntry.ofValue : Value → LooseEntry Float
  | .null => .nothing
  | value =>
      match value.toReal with
      | .ok number => .readable number
      | .error cause => .unreadable cause

/-- A byte string as the text of the characters with these numbers; it keeps their order. -/
def textOfBytes (content : List UInt8) : String :=
  String.ofList (content.map fun byte => Char.ofNat byte.toNat)

def Column.entries : Column Value → Entries Float
  | .truth entries => .wholes (entries.map fun entry => if entry then 1 else 0)
  | .int type entries => .wholes (entries.map type.read)
  | .float width entries => .reals (entries.map width.toFloat)
  | .complex width entries =>
      .complexes (entries.map fun parts => (width.toFloat parts.1, width.toFloat parts.2))
  | .text _ entries =>
      .texts (entries.map fun content => (content, (Value.text content).scalarToReal))
  | .bytes _ entries =>
      .texts (entries.map fun content => (textOfBytes content, (Value.bytes content).scalarToReal))
  | .mixed entries => .loose (entries.map fun entry => (entry, .ofValue entry))

namespace LooseEntry

variable {α : Type} [Scalar α]

/-- The number of an entry in a column of real numbers, where nothing becomes undefined. -/
def toReal : LooseEntry α → Except Error α
  | nothing => .ok Scalar.undefined
  | readable number => .ok number
  | unreadable cause => .error cause

def number? : LooseEntry α → Except Error α
  | nothing => .error .wrongType
  | readable number => .ok number
  | unreadable cause => .error cause

def ofReading : Except Error α → LooseEntry α
  | .ok number => readable number
  | .error cause => unreadable cause

end LooseEntry

namespace Entries

variable {α : Type} [Scalar α]

/-- All entries as real numbers; a complex one gives its real part. -/
def toReals : Entries α → Except Error (List α)
  | reals entries => .ok entries
  | wholes entries => .ok (entries.map Scalar.ofInt)
  | complexes entries => .ok (entries.map Prod.fst)
  | texts entries => entries.mapM Prod.snd
  | loose entries => entries.mapM fun entry => entry.2.toReal

def toLoose : Entries α → List (LooseEntry α)
  | reals entries => entries.map .readable
  | wholes entries => entries.map fun number => .readable (Scalar.ofInt number)
  | complexes entries => entries.map fun parts => .readable parts.1
  | texts entries => entries.map fun entry => .ofReading entry.2
  | loose entries => entries.map Prod.snd

def count : Entries α → Nat
  | reals entries => entries.length
  | wholes entries => entries.length
  | complexes entries => entries.length
  | texts entries => entries.length
  | loose entries => entries.length

/-- Undefined entries; only real and complex numbers can be undefined. -/
def undefinedCount : Entries α → Nat
  | reals entries => entries.countP Scalar.isUndefined
  | complexes entries =>
      entries.countP fun parts => Scalar.isUndefined parts.1 || Scalar.isUndefined parts.2
  | _ => 0

def isInfinite (number : α) : Bool := !Scalar.isUndefined number && !Scalar.isFinite number

/-- Infinite entries; a complex number is infinite if one of its parts is. -/
def infiniteCount : Entries α → Nat
  | reals entries => entries.countP isInfinite
  | complexes entries => entries.countP fun parts => isInfinite parts.1 || isInfinite parts.2
  | _ => 0

end Entries

end FieldSurvey
