import FieldSurvey.Packed.ArrayForm

/-!
Reading packed bytes. Any form of a number or size is accepted, not only the shortest; mappings that
are marked as arrays become arrays as soon as they are complete. The input has to hold exactly one
value.
-/

namespace FieldSurvey

/-- How many containers may be open at once while reading. -/
def readingDepth : Nat := 1024

def takeNumber (count : Nat) (bytes : Bytes) : Except Error (Nat × Bytes) := do
  let (taken, rest) ← takeBytes count bytes
  return (fromBigEndian taken, rest)

def takeSigned (count : Nat) (bytes : Bytes) : Except Error (Int × Bytes) := do
  let (number, rest) ← takeNumber count bytes
  return (Int.bmod number (2 ^ (8 * count)), rest)

def takeText (size : Nat) (bytes : Bytes) : Except Error (Value × Bytes) := do
  let (taken, rest) ← takeBytes size bytes
  match String.fromUTF8? (ByteArray.mk taken.toArray) with
  | some content => return (.text content, rest)
  | none => throw .textEncoding

def takeContent (size : Nat) (bytes : Bytes) : Except Error (Value × Bytes) := do
  let (taken, rest) ← takeBytes size bytes
  return (.bytes taken, rest)

/-- Whether some bytes hold a time: seconds alone, or with nanoseconds in front of them that do not
make up a second. -/
def isTime (content : Bytes) : Bool :=
  match content.length with
  | 4 => true
  | 8 => fromBigEndian content / 2 ^ 34 < 10 ^ 9
  | 12 => fromBigEndian (content.take 4) < 10 ^ 9
  | _ => false

/-- Reads a foreign item of `size` bytes: its type number and its content. The type number -1 is
kept for times. -/
def takeTagged (size : Nat) (bytes : Bytes) : Except Error (Value × Bytes) := do
  let (tag, afterTag) ← takeSigned 1 bytes
  let (taken, rest) ← takeBytes size afterTag
  if tag = -1 ∧ !isTime taken then throw .badValue
  return (.list [.whole tag, .bytes taken], rest)

/-- Whether the first of some bytes announces a foreign item. -/
def announcesTagged : Bytes → Bool
  | [] => false
  | head :: _ =>
      let kind := head.toNat
      (0xc7 ≤ kind && kind ≤ 0xc9) || (0xd4 ≤ kind && kind ≤ 0xd8)

def takeItems (takeValue : Bytes → Except Error (Value × Bytes)) :
    Nat → Bytes → Except Error (List Value × Bytes)
  | 0, bytes => .ok ([], bytes)
  | count + 1, bytes => do
      let (item, afterItem) ← takeValue bytes
      let (items, rest) ← takeItems takeValue count afterItem
      return (item :: items, rest)

/-- Reads `count` keys with their values, setting each in the mapping read so far. A foreign item
may be a key, unlike other lists. -/
def takeEntries (takeValue : Bytes → Except Error (Value × Bytes)) :
    Nat → List (Value × Value) → Bytes → Except Error (List (Value × Value) × Bytes)
  | 0, entries, bytes => .ok (entries, bytes)
  | count + 1, entries, bytes => do
      let (key, afterKey) ← takeValue bytes
      let (value, rest) ← takeValue afterKey
      if key.isKey || announcesTagged bytes then
        takeEntries takeValue count (Value.setEntry key value entries) rest
      else throw .wrongType

def takeSized (width : Nat) (take : Nat → Bytes → Except Error (Value × Bytes)) (bytes : Bytes) :
    Except Error (Value × Bytes) := do
  let (size, rest) ← takeNumber width bytes
  take size rest

def takeUnsignedWhole (width : Nat) (bytes : Bytes) : Except Error (Value × Bytes) := do
  let (number, rest) ← takeNumber width bytes
  return (.whole number, rest)

def takeSignedWhole (width : Nat) (bytes : Bytes) : Except Error (Value × Bytes) := do
  let (number, rest) ← takeSigned width bytes
  return (.whole number, rest)

/-- Reads the items of a list, given a reader for one of them and how much deeper it may go. No list
can have more items than there are bytes. -/
def takeList (total depth : Nat) (takeValue : Bytes → Except Error (Value × Bytes))
    (count : Nat) (bytes : Bytes) : Except Error (Value × Bytes) := do
  if depth = 0 then throw .packedNesting
  if total < count then throw .badValue
  let (items, rest) ← takeItems takeValue count bytes
  return (.list items, rest)

/-- Reads the entries of a mapping; it has no more than half as many as there are bytes. -/
def takeMap (total depth : Nat) (takeValue : Bytes → Except Error (Value × Bytes))
    (count : Nat) (bytes : Bytes) : Except Error (Value × Bytes) := do
  if depth = 0 then throw .packedNesting
  if total / 2 < count then throw .badValue
  let (entries, rest) ← takeEntries takeValue count [] bytes
  let value ← Value.restore entries
  return (value, rest)

def takeAnnounced (total depth : Nat) (takeValue : Bytes → Except Error (Value × Bytes))
    (kind : Nat) (rest : Bytes) : Except Error (Value × Bytes) := do
  let list := takeList total depth takeValue
  let map := takeMap total depth takeValue
  if kind < 0x80 then return (.whole kind, rest)
  else if kind < 0x90 then map (kind - 0x80) rest
  else if kind < 0xa0 then list (kind - 0x90) rest
  else if kind < 0xc0 then takeText (kind - 0xa0) rest
  else if kind = 0xc0 then return (.null, rest)
  else if kind = 0xc1 then throw .packedFormat
  else if kind = 0xc2 then return (.truth false, rest)
  else if kind = 0xc3 then return (.truth true, rest)
  else if kind = 0xc4 then takeSized 1 takeContent rest
  else if kind = 0xc5 then takeSized 2 takeContent rest
  else if kind = 0xc6 then takeSized 4 takeContent rest
  else if kind = 0xc7 then takeSized 1 takeTagged rest
  else if kind = 0xc8 then takeSized 2 takeTagged rest
  else if kind = 0xc9 then takeSized 4 takeTagged rest
  else if kind = 0xca then
    let (word, rest) ← takeNumber 4 rest
    return (.ofFloat (FloatWidth.single.toFloat (BitVec.ofNat 32 word)), rest)
  else if kind = 0xcb then
    let (word, rest) ← takeNumber 8 rest
    return (.real ⟨BitVec.ofNat 64 word⟩, rest)
  else if kind = 0xcc then takeUnsignedWhole 1 rest
  else if kind = 0xcd then takeUnsignedWhole 2 rest
  else if kind = 0xce then takeUnsignedWhole 4 rest
  else if kind = 0xcf then takeUnsignedWhole 8 rest
  else if kind = 0xd0 then takeSignedWhole 1 rest
  else if kind = 0xd1 then takeSignedWhole 2 rest
  else if kind = 0xd2 then takeSignedWhole 4 rest
  else if kind = 0xd3 then takeSignedWhole 8 rest
  else if kind = 0xd4 then takeTagged 1 rest
  else if kind = 0xd5 then takeTagged 2 rest
  else if kind = 0xd6 then takeTagged 4 rest
  else if kind = 0xd7 then takeTagged 8 rest
  else if kind = 0xd8 then takeTagged 16 rest
  else if kind = 0xd9 then takeSized 1 takeText rest
  else if kind = 0xda then takeSized 2 takeText rest
  else if kind = 0xdb then takeSized 4 takeText rest
  else if kind = 0xdc then takeSized 2 list rest
  else if kind = 0xdd then takeSized 4 list rest
  else if kind = 0xde then takeSized 2 map rest
  else if kind = 0xdf then takeSized 4 map rest
  else return (.whole ((kind : Int) - 0x100), rest)

/-- Reads one value within a depth of nesting; `total` is the size of the whole input. -/
def takeValue (total : Nat) : Nat → Bytes → Except Error (Value × Bytes)
  | 0, _ => .error .packedNesting
  | depth + 1, bytes =>
      match bytes with
      | [] => .error .badValue
      | head :: rest => takeAnnounced total depth (takeValue total depth) head.toNat rest

/-- Reads the one value that some bytes hold. -/
def unpack (bytes : Bytes) : Except Error Value := do
  let (value, rest) ← takeValue bytes.length (readingDepth + 1) bytes
  if rest.isEmpty then return value else throw .trailingData

end FieldSurvey
